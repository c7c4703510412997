import SceneMarkup.Naming.Names

namespace SceneMarkup

/-!
# Names on request

While a scene is translated, names are asked for one at a time and in no fixed
order.  A register keeps the names it has given and the own names of every
document that it was asked about.  A name that is not known yet is built from the
outside in: the way outwards ends at the nearest owner whose name is known, and on
the way back each node is named behind its owner and remembered.
-/

/-- The names given so far, and the own names of the documents they came from. -/
structure NameRegister where
  given : List (NodeKey × String)
  tables : List (FileRef × List String)
  deriving Repr

/-- A question for the name of a node. -/
structure NameRequest where
  key : NodeKey
  use : NameUse
  deriving Repr, BEq

namespace NameRegister

/-- A register that was never asked. -/
def empty : NameRegister := ⟨[], []⟩

/-- The name that was given to a node. -/
def name? (register : NameRegister) (key : NodeKey) : Option String :=
  register.given.lookup key

/-- Remember the name of a node. -/
def give (register : NameRegister) (key : NodeKey) (name : String) : NameRegister :=
  { register with given := (key, name) :: register.given }

/-- The own names of a document.  They are worked out when the document is first
asked about. -/
def table (scene : Scene) (register : NameRegister) (file : FileRef) :
    List String × NameRegister :=
  match register.tables.lookup file with
  | some names => (names, register)
  | none =>
      let names := (scene.document file).ownNames
      (names, { register with tables := (file, names) :: register.tables })

/-- The name of a node before its owners are put in front. -/
def ownName (scene : Scene) (register : NameRegister) (key : NodeKey) :
    String × NameRegister :=
  let (names, register) := register.table scene key.file
  (names[key.index]?.getD "", register)

/-- The components around a node, nearest first, as far as the first whose name is
known. -/
@[semireducible]
def ownersToName (scene : Scene) (register : NameRegister) (key : NodeKey) : List NodeKey :=
  match _ : scene.ownerComponent? key with
  | none => []
  | some owner =>
      if (register.name? owner).isSome then [owner]
      else owner :: ownersToName scene register owner
termination_by key.index
decreasing_by
  rename_i found _
  exact scene.lt_of_ownerComponent? found

theorem ownersToName_eq (scene : Scene) (register : NameRegister) (key : NodeKey) :
    register.ownersToName scene key =
      match scene.ownerComponent? key with
      | none => []
      | some owner =>
          if (register.name? owner).isSome then [owner]
          else owner :: register.ownersToName scene owner := by
  rw [ownersToName]
  split
  · rename_i outermost
    rw [outermost]
  · rename_i owner found
    rw [found]

/-- The own name of a node behind the name of its owner, if it has one. -/
def behind : Option String -> String -> String
  | some owner, own => owner ++ "_" ++ own
  | none, own => own

/-- Name a node, unless its name is known, behind the owner that was named
before. -/
def nameBehind (scene : Scene) (key : NodeKey) :
    Option String × NameRegister -> Option String × NameRegister
  | (front, register) =>
      match register.name? key with
      | some name => (some name, register)
      | none =>
          let (own, register) := register.ownName scene key
          let name := behind front own
          (some name, register.give key name)

/-- The name of a node, with the register that knows it from now on. -/
def uniqueName (scene : Scene) (register : NameRegister) (key : NodeKey) :
    String × NameRegister :=
  match register.name? key with
  | some name => (name, register)
  | none =>
      let (name, register) :=
        (key :: register.ownersToName scene key).foldr (nameBehind scene) (none, register)
      (name.getD "", register)

/-- Answer a request. -/
def answer (scene : Scene) (register : NameRegister) (request : NameRequest) :
    String × NameRegister :=
  let (name, register) := register.uniqueName scene request.key
  (scene.spell request.key name request.use, register)

/-- Answer requests one after another. -/
def answers (scene : Scene) : NameRegister -> List NameRequest -> List String × NameRegister
  | register, [] => ([], register)
  | register, request :: rest =>
      let (name, register) := register.answer scene request
      let (names, register) := answers scene register rest
      (name :: names, register)

end NameRegister
end SceneMarkup

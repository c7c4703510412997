import SceneMarkup.Index.Document
import SceneMarkup.Naming.Identifier
import SceneMarkup.Scene.Node

namespace SceneMarkup

/-!
# Scenes

A scene is the document to be translated together with the documents it imports
components from.  Nodes are addressed by file and position, and an id can be
looked up across files: the main document comes first, then the imported files
in order, each first by its alias table and then by its own ids.
-/

/-- One of the documents of a scene. -/
inductive FileRef where
  | main
  | imported (place : Nat)
  deriving Repr, BEq, DecidableEq, ReflBEq, LawfulBEq

/-- The address of a node. -/
structure NodeKey where
  file : FileRef
  index : Nat
  deriving Repr, BEq, DecidableEq, ReflBEq, LawfulBEq

/-- What the nodes of a document are called before their owners are put in
front, in pre-order. -/
def Document.ownNames (document : Document) : List String :=
  Allocation.names (document.nodes.map fun node => ⟨Identifier.base node, node.isComponent⟩)

/-- A document with the names of its nodes, which depend on nothing else. -/
structure NamedDocument where
  document : Document
  names : Array String
  names_eq : names = document.ownNames.toArray

/-- Name the nodes of a document. -/
def NamedDocument.ofDocument (document : Document) : NamedDocument :=
  ⟨document, document.ownNames.toArray, rfl⟩

/-- An imported file with its document indexed. -/
structure IndexedImport where
  path : String
  aliases : OrderedMap String
  named : NamedDocument

/-- A document and the files it imports. -/
structure Scene where
  main : NamedDocument
  imports : List IndexedImport

namespace Scene

/-- Index the imported files in order; the first that is nested too deep ends
it. -/
def indexImports : List (String × ImportedFile) -> Except Fault (List IndexedImport)
  | [] => .ok []
  | (path, file) :: rest =>
      match Document.ofNode? file.document with
      | .error fault => .error fault
      | .ok document =>
          match indexImports rest with
          | .error fault => .error fault
          | .ok indexed => .ok (⟨path, file.aliases, .ofDocument document⟩ :: indexed)

/-- Index a document and what it imports.  The main document must be one; then
its depth counts, and then the depths of the imported trees. -/
def build (root : Node) (imports : Imports) : Except Fault Scene :=
  if root.type ≠ .document then .error (.notADocument root.type)
  else
    match Document.ofNode? root with
    | .error fault => .error fault
    | .ok document =>
        match indexImports imports.entries with
        | .error fault => .error fault
        | .ok indexed => .ok ⟨.ofDocument document, indexed⟩

/-- A document of the scene with its names; an empty one where there is none. -/
def named (scene : Scene) : FileRef -> NamedDocument
  | .main => scene.main
  | .imported place =>
      match scene.imports[place]? with
      | some indexed => indexed.named
      | none => .ofDocument (.ofRoot Node.blank)

def document (scene : Scene) (file : FileRef) : Document :=
  (scene.named file).document

/-- The paths of the imported files, in order. -/
def importPaths (scene : Scene) : List String :=
  scene.imports.map (·.path)

def importPath? (scene : Scene) : FileRef -> Option String
  | .main => none
  | .imported place => scene.imports[place]?.map (·.path)

def node (scene : Scene) (key : NodeKey) : Node :=
  (scene.document key.file).node key.index

/-- The address of the first node with an id in a document. -/
def find? (scene : Scene) (file : FileRef) (id : String) : Option NodeKey :=
  ((scene.document file).find? id).map fun index => ⟨file, index⟩

/-- The addresses of a subtree, its root first. -/
def subtree (scene : Scene) (key : NodeKey) : List NodeKey :=
  ((scene.document key.file).subtree key.index).map fun index => ⟨key.file, index⟩

/-- The addresses of the children. -/
def children (scene : Scene) (key : NodeKey) : List NodeKey :=
  ((scene.document key.file).children key.index).map fun index => ⟨key.file, index⟩

def parent? (scene : Scene) (key : NodeKey) : Option NodeKey :=
  ((scene.document key.file).parent? key.index).map fun index => ⟨key.file, index⟩

/-- The addresses of the ancestors, nearest first. -/
def ancestors (scene : Scene) (key : NodeKey) : List NodeKey :=
  ((scene.document key.file).ancestors key.index).map fun index => ⟨key.file, index⟩

/-- The nearest component above a node. -/
def ownerComponent? (scene : Scene) (key : NodeKey) : Option NodeKey :=
  ((scene.document key.file).ownerComponent? key.index).map fun index => ⟨key.file, index⟩

/-- An owner stands before the node. -/
theorem lt_of_ownerComponent? (scene : Scene) {key owner : NodeKey}
    (found : scene.ownerComponent? key = some owner) : owner.index < key.index := by
  rcases Option.map_eq_some_iff.mp found with ⟨ancestor, nearest, same⟩
  rw [← same]
  exact Document.lt_of_mem_ancestors _ (List.mem_of_find?_eq_some nearest)

/-- The nearest instance above a node. -/
def ownerInstance? (scene : Scene) (key : NodeKey) : Option NodeKey :=
  ((scene.document key.file).ownerInstance? key.index).map fun index => ⟨key.file, index⟩

/-- The child numbers that lead from one node to another, if it lies below in
the same document. -/
def path? (scene : Scene) (key root : NodeKey) : Option (List Nat) :=
  if key.file = root.file then (scene.document key.file).path? key.index root.index
  else none

/-- Follow child numbers down from a node. -/
def follow? (scene : Scene) (path : List Nat) (root : NodeKey) : Option NodeKey :=
  ((scene.document root.file).follow? path root.index).map fun index => ⟨root.file, index⟩

/-- Where an id leads: a document and the id that the node has there. -/
structure Resolution where
  file : FileRef
  id : String
  deriving Repr, BEq, DecidableEq

/-- Look an id up in one imported file: by its alias, if the file holds the node
that the alias means, and otherwise by the id itself. -/
def resolveIn? (id : String) (place : Nat) (indexed : IndexedImport) : Option Resolution :=
  let holds (id : String) : Bool := (indexed.named.document.find? id).isSome
  let byId := if holds id then some ⟨.imported place, id⟩ else none
  match indexed.aliases.get? (InstanceId.unqualified id) with
  | some meant => if holds meant then some ⟨.imported place, meant⟩ else byId
  | none => byId

/-- Look an id up in imported files, the first of which has the number
`place`. -/
def resolveFrom? (id : String) : Nat -> List IndexedImport -> Option Resolution
  | _, [] => none
  | place, indexed :: rest =>
      match resolveIn? id place indexed with
      | some resolution => some resolution
      | none => resolveFrom? id (place + 1) rest

/-- Look an id up across files.  An id that leads nowhere stays what it is, an
id of the main document. -/
def resolve (scene : Scene) (id : String) : Resolution :=
  if ((scene.document .main).find? id).isSome then ⟨.main, id⟩
  else (resolveFrom? id 0 scene.imports).getD ⟨.main, id⟩

/-- The node that an id leads to across files. -/
def resolveNode? (scene : Scene) (id : String) : Option NodeKey :=
  let resolution := scene.resolve id
  scene.find? resolution.file resolution.id

end Scene
end SceneMarkup

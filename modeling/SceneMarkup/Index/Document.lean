import SceneMarkup.Index.Traversal

namespace SceneMarkup

/-!
# Indexed documents

A document is a tree together with its positions in pre-order.  The way back that
a position keeps gives parents, ancestors and paths, and the ends of the subtrees
give children and siblings.
-/

/-- A tree with its positions in pre-order. -/
structure Document where
  root : Node
  positions : Array Position
  positions_eq : positions = (root.positionsFrom 0 []).toArray

namespace Document

/-- Index a tree of any depth. -/
def ofRoot (root : Node) : Document :=
  ⟨root, (root.positionsFrom 0 []).toArray, rfl⟩

/-- Index a tree, unless it is nested too deep. -/
def ofNode? (root : Node) : Except Fault Document :=
  match found : Traversal.positions? root with
  | .error fault => .error fault
  | .ok positions =>
      .ok ⟨root, positions.toArray, congrArg List.toArray (Traversal.eq_of_positions? found)⟩

theorem ofNode?_eq (root : Node) :
    ofNode? root =
      match root.tooDeep? 0 with
      | some (id, depth) => .error (.malformedTree id depth)
      | none => .ok (ofRoot root) := by
  have whole := Traversal.positions?_eq root
  rw [ofNode?]
  cases deep : root.tooDeep? 0 with
  | some first =>
      rw [deep] at whole
      split
      · rename_i fault found
        exact congrArg Except.error (Except.error.inj (found.symm.trans whole))
      · rename_i positions found
        cases found.symm.trans whole
  | none =>
      rw [deep] at whole
      split
      · rename_i fault found
        cases found.symm.trans whole
      · rename_i positions found
        cases Except.ok.inj (found.symm.trans whole)
        rfl

/-- The number of nodes. -/
def size (document : Document) : Nat :=
  document.positions.size

/-- The node at a position; an empty group where there is none. -/
def node (document : Document) (index : Nat) : Node :=
  match document.positions[index]? with
  | some position => position.node
  | none => Node.blank

/-- Every node in pre-order. -/
def nodes (document : Document) : List Node :=
  document.positions.toList.map (·.node)

/-- The way from a position back to the root. -/
def trail (document : Document) (index : Nat) : List Step :=
  match document.positions[index]? with
  | some position => position.trail
  | none => []

/-- The end of the subtree at a position. -/
def stop (document : Document) (index : Nat) : Nat :=
  match document.positions[index]? with
  | some position => position.stop
  | none => index

/-- The positions of the subtree at a position, its root first. -/
def subtree (document : Document) (index : Nat) : List Nat :=
  List.range' index (document.stop index - index)

/-- The first position whose node has an id. -/
def find? (document : Document) (id : String) : Option Nat :=
  document.positions.findIdx? fun position => position.node.id == id

def parent? (document : Document) (index : Nat) : Option Nat :=
  (document.trail index).head?.map (·.parent)

/-- The positions of the ancestors, nearest first. -/
def ancestors (document : Document) (index : Nat) : List Nat :=
  (document.trail index).map (·.parent)

/-- The positions of sibling trees, the first of which is at `next`. -/
def siblings (document : Document) : Nat -> List Node -> List Nat
  | _, [] => []
  | next, _ :: rest => next :: siblings document (document.stop next) rest

/-- The positions of the children, in order. -/
def children (document : Document) (index : Nat) : List Nat :=
  document.siblings (index + 1) (document.node index).children

/-- Hop over siblings, each time to where a subtree ends, but not beyond `stop`,
where the subtree of the parent ends. -/
def hop (document : Document) (stop : Nat) : Nat -> Nat -> Option Nat
  | child, 0 => if child < stop then some child else none
  | child, count + 1 =>
      if child < stop then hop document stop (document.stop child) count else none

def child? (document : Document) (index branch : Nat) : Option Nat :=
  document.hop (document.stop index) (index + 1) branch

/-- The way back from a position leads over smaller positions. -/
theorem parent_lt_of_mem_trail (document : Document) {index : Nat} {step : Step}
    (member : step ∈ document.trail index) : step.parent < index := by
  rw [trail] at member
  cases found : document.positions[index]? with
  | none =>
      rw [found] at member
      cases member
  | some position =>
      rw [document.positions_eq, List.getElem?_toArray] at found
      rw [document.positions_eq, List.getElem?_toArray, found] at member
      rcases Node.parent_lt_of_positionsFrom 0 [] document.root found step member with
        impossible | smaller
      · cases impossible
      · rwa [Nat.zero_add] at smaller

theorem lt_of_mem_ancestors (document : Document) {index ancestor : Nat}
    (member : ancestor ∈ document.ancestors index) : ancestor < index := by
  rcases List.mem_map.mp member with ⟨step, onWay, same⟩
  rw [← same]
  exact document.parent_lt_of_mem_trail onWay

/-- Climb from a position to `root` and note which child each node on the way is.
Nothing is noted if there is no way up to `root`.  Paths in small documents can be
found by evaluation, so the definition stays transparent. -/
@[semireducible]
def climb? (document : Document) (root current : Nat) : Option (List Nat) :=
  if current = root then some []
  else
    match _ : (document.trail current).head? with
    | some step => (climb? document root step.parent).map (step.branch :: ·)
    | none => none
termination_by current
decreasing_by
  rename_i link
  exact document.parent_lt_of_mem_trail (List.mem_of_head? link)

/-- The child numbers that lead from `root` down to a position, if it lies in
the subtree there: what is noted on the way up, turned around. -/
def path? (document : Document) (index root : Nat) : Option (List Nat) :=
  if root <= index ∧ index < document.stop root then
    (document.climb? root index).map List.reverse
  else none

/-- Follow child numbers down from a position. -/
def follow? (document : Document) : List Nat -> Nat -> Option Nat
  | [], index => some index
  | branch :: rest, index =>
      match document.child? index branch with
      | some child => follow? document rest child
      | none => none

/-- The nearest ancestor of a type. -/
def nearestAncestor? (document : Document) (index : Nat) (type : NodeType) : Option Nat :=
  (document.ancestors index).find? fun ancestor => (document.node ancestor).type == type

/-- The nearest component above a position. -/
def ownerComponent? (document : Document) (index : Nat) : Option Nat :=
  document.nearestAncestor? index .component

/-- The nearest instance above a position. -/
def ownerInstance? (document : Document) (index : Nat) : Option Nat :=
  document.nearestAncestor? index .placement

/-- The positions of all components. -/
def components (document : Document) : List Nat :=
  (List.range document.size).filter fun index => (document.node index).isComponent

def texts (document : Document) (index : Nat) : List Nat :=
  (document.subtree index).filter fun position => (document.node position).isText

end Document
end SceneMarkup

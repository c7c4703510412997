import SceneMarkup.Scene.Node

namespace SceneMarkup

/-!
# Positions

The nodes of a tree are numbered in pre-order, so that every subtree occupies an
unbroken range of numbers.  Each position keeps the way back to the root, which
gives parents, ancestors and paths, and the end of its subtree, which gives
children and siblings.

What is defined here follows the tree.  The traversal that numbers a tree keeps
the nodes that are still to be visited on a stack; these definitions say what it
comes to.
-/

/-- One step of the way from a node to the root: the position of the parent and
the place among its children. -/
structure Step where
  parent : Nat
  branch : Nat
  deriving Repr, BEq, DecidableEq

/-- A node in pre-order: the way back to the root, nearest step first, and the
end of the subtree. -/
structure Position where
  node : Node
  trail : List Step
  stop : Nat

namespace Node

mutual

/-- The number of nodes in a tree. -/
def size : Node -> Nat
  | .container _ _ _ children => sizeAll children + 1
  | .leaf _ _ _ => 1

def sizeAll : List Node -> Nat
  | [] => 0
  | node :: rest => size node + sizeAll rest

end

mutual

/-- The positions of a tree whose root has the number `start` and lies at the
end of `trail`. -/
def positionsFrom (start : Nat) (trail : List Step) : Node -> List Position
  | .container id name kind children =>
      let node := Node.container id name kind children
      ⟨node, trail, start + node.size⟩
        :: positionsBelow (start + 1) start 0 trail children
  | .leaf id name kind => [⟨.leaf id name kind, trail, start + 1⟩]

/-- The positions of sibling trees, numbered from `next`; the first of them is
the child number `branch` of the node at `parent`. -/
def positionsBelow (next parent branch : Nat) (trail : List Step) : List Node -> List Position
  | [] => []
  | node :: rest =>
      positionsFrom next (⟨parent, branch⟩ :: trail) node
        ++ positionsBelow (next + node.size) parent (branch + 1) trail rest

end

/-- Trees may be nested this many levels deep. -/
def depthLimit : Nat := 1024

mutual

/-- The first node in pre-order that is nested too deep, with its depth, where
`depth` is the depth of the root. -/
def tooDeep? (depth : Nat) : Node -> Option (String × Nat)
  | .container id _ _ children =>
      if depthLimit < depth then some (id, depth) else tooDeepBelow? (depth + 1) children
  | .leaf id _ _ => if depthLimit < depth then some (id, depth) else none

/-- The first node of sibling trees that is nested too deep. -/
def tooDeepBelow? (depth : Nat) : List Node -> Option (String × Nat)
  | [] => none
  | node :: rest =>
      match tooDeep? depth node with
      | some found => some found
      | none => tooDeepBelow? depth rest

end

theorem size_eq (node : Node) : node.size = sizeAll node.children + 1 := by
  cases node with
  | container id name kind children => rfl
  | leaf id name kind => rfl

theorem size_pos (node : Node) : 0 < node.size := by
  rw [size_eq]
  exact Nat.succ_pos _

/-- The root comes first, then the children in order. -/
theorem positionsFrom_eq (start : Nat) (trail : List Step) (node : Node) :
    node.positionsFrom start trail =
      ⟨node, trail, start + node.size⟩
        :: positionsBelow (start + 1) start 0 trail node.children := by
  cases node with
  | container id name kind children => rfl
  | leaf id name kind => rfl

mutual

theorem length_positionsFrom (start : Nat) (trail : List Step) :
    (node : Node) -> (node.positionsFrom start trail).length = node.size
  | .container id name kind children => by
      rw [positionsFrom_eq, List.length_cons, size_eq]
      exact congrArg (· + 1) (length_positionsBelow (start + 1) start 0 trail children)
  | .leaf id name kind => rfl

theorem length_positionsBelow (next parent branch : Nat) (trail : List Step) :
    (nodes : List Node) ->
      (positionsBelow next parent branch trail nodes).length = sizeAll nodes
  | [] => rfl
  | node :: rest => by
      rw [positionsBelow, List.length_append, length_positionsFrom, length_positionsBelow, sizeAll]

end

mutual

/-- The way back from a node leads over nodes with smaller numbers. -/
theorem parent_lt_of_positionsFrom (start : Nat) (trail : List Step) :
    (node : Node) -> {place : Nat} -> {position : Position} ->
      (node.positionsFrom start trail)[place]? = some position ->
        forall step, step ∈ position.trail -> step ∈ trail ∨ step.parent < start + place
  | .leaf id name kind, place, position, found, step, member => by
      rw [positionsFrom, List.getElem?_singleton] at found
      split at found
      · rw [← Option.some.inj found] at member
        exact Or.inl member
      · cases found
  | .container id name kind children, 0, position, found, step, member => by
      rw [← Option.some.inj found] at member
      exact Or.inl member
  | .container id name kind children, place + 1, position, found, step, member => by
      rw [positionsFrom, List.getElem?_cons_succ] at found
      have below := parent_lt_of_positionsBelow (start + 1) start 0 trail (Nat.lt_succ_self start)
        children found step member
      rw [Nat.add_assoc, Nat.add_comm 1 place] at below
      exact below

theorem parent_lt_of_positionsBelow (next parent branch : Nat) (trail : List Step)
    (earlier : parent < next) :
    (nodes : List Node) -> {place : Nat} -> {position : Position} ->
      (positionsBelow next parent branch trail nodes)[place]? = some position ->
        forall step, step ∈ position.trail -> step ∈ trail ∨ step.parent < next + place
  | [], place, position, found, step, member => by
      rw [positionsBelow, List.getElem?_nil] at found
      cases found
  | node :: rest, place, position, found, step, member => by
      rw [positionsBelow, List.getElem?_append, length_positionsFrom] at found
      split at found
      · rcases parent_lt_of_positionsFrom next _ node found step member with listed | smaller
        · rcases List.mem_cons.mp listed with same | above
          · rw [same]
            exact Or.inr (Nat.lt_add_right place earlier)
          · exact Or.inl above
        · exact Or.inr smaller
      · rcases parent_lt_of_positionsBelow (next + node.size) parent (branch + 1) trail
          (Nat.lt_add_right _ earlier) rest found step member with above | smaller
        · exact Or.inl above
        · exact Or.inr (by omega)

end

end Node
end SceneMarkup

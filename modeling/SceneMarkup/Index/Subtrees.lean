import SceneMarkup.Index.Scene

namespace SceneMarkup

/-!
# Trees inside a document

Everything that is looked up in an indexed document is read off its list of
positions, while the documents themselves are trees.  The bridge between the two
is the statement that a tree stands in the document from some position on: the
list continues there with exactly the positions of that tree.  It passes from a
tree to its children, and it holds of the node at every position.

The children that are found for a position are therefore those of its node.  A
loop that puts them on a stack in place of their parent has less to visit than
before, and ends.
-/

namespace Document

variable {document : Document}

/-- A tree stands in the document from a position on, its root at the end of a
trail. -/
def Holds (document : Document) (index : Nat) (trail : List Step) (node : Node) : Prop :=
  node.positionsFrom index trail <+: document.positions.toList.drop index

/-- Sibling trees stand in the document one after the other. -/
def HoldsBelow (document : Document) (next parent branch : Nat) (trail : List Step)
    (nodes : List Node) : Prop :=
  Node.positionsBelow next parent branch trail nodes <+: document.positions.toList.drop next

theorem holds_root (document : Document) : document.Holds 0 [] document.root := by
  have whole : document.positions.toList.drop 0 = document.root.positionsFrom 0 [] := by
    rw [document.positions_eq, List.drop_zero]
  unfold Holds
  exact whole ▸ List.prefix_refl _

namespace Holds

variable {index : Nat} {trail : List Step} {node : Node}

theorem position (held : document.Holds index trail node) :
    document.positions[index]? = some ⟨node, trail, index + node.size⟩ := by
  rcases held with ⟨after, whole⟩
  rw [Node.positionsFrom_eq] at whole
  have first := congrArg List.head? whole
  rw [List.cons_append, List.head?_cons, List.head?_drop, Array.getElem?_toList] at first
  exact first.symm

theorem node_eq (held : document.Holds index trail node) : document.node index = node := by
  rw [Document.node, held.position]

theorem trail_eq (held : document.Holds index trail node) : document.trail index = trail := by
  rw [Document.trail, held.position]

theorem stop_eq (held : document.Holds index trail node) :
    document.stop index = index + node.size := by
  rw [Document.stop, held.position]

/-- The children of a tree stand behind its root. -/
theorem below (held : document.Holds index trail node) :
    document.HoldsBelow (index + 1) index 0 trail node.children := by
  rcases held with ⟨after, whole⟩
  rw [Node.positionsFrom_eq] at whole
  refine ⟨after, ?_⟩
  have rest := congrArg (List.drop 1) whole
  rw [List.cons_append, List.drop_drop, List.drop_one, List.tail_cons] at rest
  exact rest

/-- The children of a tree are found behind its root. -/
theorem children_eq (held : document.Holds index trail node) :
    document.children index = document.siblings (index + 1) node.children := by
  rw [Document.children, held.node_eq]

theorem subtree_eq (held : document.Holds index trail node) :
    document.subtree index = List.range' index node.size := by
  rw [subtree, held.stop_eq, Nat.add_sub_cancel_left]

theorem end_le (held : document.Holds index trail node) : index + node.size <= document.size := by
  have lengths := held.length_le
  rw [Node.length_positionsFrom, List.length_drop, Array.length_toList] at lengths
  have nonempty := node.size_pos
  unfold Document.size
  omega

end Holds

namespace HoldsBelow

variable {next parent branch : Nat} {trail : List Step} {node : Node} {rest : List Node}

theorem head (held : document.HoldsBelow next parent branch trail (node :: rest)) :
    document.Holds next (⟨parent, branch⟩ :: trail) node :=
  (List.prefix_append _ _).trans held

theorem tail (held : document.HoldsBelow next parent branch trail (node :: rest)) :
    document.HoldsBelow (next + node.size) parent (branch + 1) trail rest := by
  rcases held with ⟨after, whole⟩
  refine ⟨after, ?_⟩
  have skipped := congrArg (List.drop node.size) whole
  rw [Node.positionsBelow, List.append_assoc, List.drop_drop,
    ← Node.length_positionsFrom next (⟨parent, branch⟩ :: trail) node, List.drop_left] at skipped
  rw [Node.length_positionsFrom] at skipped
  exact skipped

end HoldsBelow

mutual

/-- Every position inside a tree begins a tree of its own. -/
theorem Holds.inside {start : Nat} {trail : List Step} :
    {node : Node} -> (held : document.Holds start trail node) -> {index : Nat} ->
      start <= index -> index < start + node.size ->
        Exists fun inner => Exists fun found => document.Holds index inner found ∧
          index + found.size <= start + node.size
  | .leaf id name kind, held, index, lower, upper => by
      have same : index = start := by
        rw [Node.size] at upper
        omega
      exact ⟨trail, .leaf id name kind, same ▸ held, Nat.le_of_eq (by rw [same])⟩
  | .container id name kind children, held, index, lower, upper => by
      by_cases root : index = start
      · exact ⟨trail, .container id name kind children, root ▸ held, Nat.le_of_eq (by rw [root])⟩
      · rw [Node.size] at upper ⊢
        have after : start + 1 <= index := by omega
        have before : index < start + 1 + Node.sizeAll children := by omega
        have below : document.HoldsBelow (start + 1) start 0 trail children := held.below
        rcases HoldsBelow.inside below after before with ⟨inner, found, stands, ends⟩
        exact ⟨inner, found, stands, by omega⟩

/-- Every position inside sibling trees begins a tree of its own. -/
theorem HoldsBelow.inside {next parent branch : Nat} {trail : List Step} :
    {nodes : List Node} -> (held : document.HoldsBelow next parent branch trail nodes) ->
      {index : Nat} -> next <= index -> index < next + Node.sizeAll nodes ->
        Exists fun inner => Exists fun found => document.Holds index inner found ∧
          index + found.size <= next + Node.sizeAll nodes
  | [], _, index, lower, upper => by
      rw [Node.sizeAll] at upper
      omega
  | node :: rest, held, index, lower, upper => by
      rw [Node.sizeAll] at upper ⊢
      by_cases first : index < next + node.size
      · rcases Holds.inside held.head lower first with ⟨inner, found, stands, ends⟩
        exact ⟨inner, found, stands, by omega⟩
      · have after : next + node.size <= index := Nat.le_of_not_lt first
        have before : index < next + node.size + Node.sizeAll rest := by omega
        rcases HoldsBelow.inside held.tail after before with ⟨inner, found, stands, ends⟩
        exact ⟨inner, found, stands, by omega⟩

end

theorem size_eq (document : Document) : document.size = document.root.size := by
  rw [size, document.positions_eq, List.size_toArray, Node.length_positionsFrom]

/-- The node at a position stands there with everything below it. -/
theorem holds (document : Document) {index : Nat} (valid : index < document.size) :
    document.Holds index (document.trail index) (document.node index) := by
  rw [size_eq] at valid
  have inside : index < 0 + document.root.size := by omega
  rcases document.holds_root.inside (Nat.zero_le index) inside with ⟨inner, found, stands, _⟩
  rw [stands.trail_eq, stands.node_eq]
  exact stands

/-! ## Where no node is -/

theorem position_eq_none {index : Nat} (outside : ¬ index < document.size) :
    document.positions[index]? = none :=
  Array.getElem?_eq_none (Nat.le_of_not_lt outside)

theorem node_eq_blank {index : Nat} (outside : ¬ index < document.size) :
    document.node index = Node.blank := by
  rw [node, position_eq_none outside]

theorem trail_eq_nil {index : Nat} (outside : ¬ index < document.size) :
    document.trail index = [] := by
  rw [trail, position_eq_none outside]

theorem stop_eq_self {index : Nat} (outside : ¬ index < document.size) :
    document.stop index = index := by
  rw [stop, position_eq_none outside]

/-! ## Children -/

theorem children_eq_nil {index : Nat} (outside : ¬ index < document.size) :
    document.children index = [] := by
  rw [children, node_eq_blank outside]
  rfl

theorem HoldsBelow.map_node_siblings {parent : Nat} {trail : List Step} {nodes : List Node} :
    forall {next branch : Nat}, document.HoldsBelow next parent branch trail nodes ->
      (document.siblings next nodes).map document.node = nodes := by
  induction nodes with
  | nil =>
      intro next branch held
      rfl
  | cons node rest ih =>
      intro next branch held
      rw [siblings, List.map_cons, held.head.node_eq, held.head.stop_eq, ih held.tail]

/-- The children of a position are those of its node, in order and number. -/
theorem map_node_children (document : Document) (index : Nat) :
    (document.children index).map document.node = (document.node index).children := by
  by_cases valid : index < document.size
  · exact (document.holds valid).below.map_node_siblings
  · rw [children_eq_nil valid, node_eq_blank valid]
    rfl

end Document

/-!
## Nodes on a stack

Several loops go down a tree with the nodes that are still to be visited on a
stack.  They take the node on top and may put its children in its place, the first
child on top.  Everything on the stack is going to be visited with all that lies
below it, so such a loop has less and less to do, however it decides which nodes
to leave out.
-/

namespace Scene

/-- How many nodes there are on a stack, with everything below them. -/
def weight (scene : Scene) : List NodeKey -> Nat
  | [] => 0
  | key :: stack => (scene.node key).size + weight scene stack

theorem weight_append (scene : Scene) (above below : List NodeKey) :
    scene.weight (above ++ below) = scene.weight above + scene.weight below := by
  induction above with
  | nil => rw [List.nil_append, weight, Nat.zero_add]
  | cons key rest ih => rw [List.cons_append, weight, weight, ih, Nat.add_assoc]

theorem weight_map (scene : Scene) (file : FileRef) (places : List Nat) :
    scene.weight (places.map (NodeKey.mk file)) =
      Node.sizeAll (places.map (scene.document file).node) := by
  induction places with
  | nil => rfl
  | cons place rest ih =>
      rw [List.map_cons, List.map_cons, weight, Node.sizeAll, ih]
      rfl

/-- Nothing is lost when a node makes way for its children. -/
theorem weight_children (scene : Scene) (key : NodeKey) :
    scene.weight (scene.children key) + 1 = (scene.node key).size := by
  rw [children, weight_map, Document.map_node_children, Node.size_eq]
  rfl

/-- A node has less below it than it has with itself. -/
theorem weight_children_append_lt (scene : Scene) (key : NodeKey) (stack : List NodeKey) :
    scene.weight (scene.children key ++ stack) < scene.weight (key :: stack) := by
  rw [weight_append, weight, ← weight_children]
  omega

/-- A node that is left out leaves less to visit. -/
theorem weight_lt_cons (scene : Scene) (key : NodeKey) (stack : List NodeKey) :
    scene.weight stack < scene.weight (key :: stack) :=
  Nat.lt_add_of_pos_left (Node.size_pos _)

end Scene

end SceneMarkup

import Mathlib.Data.List.Sort
import SceneMarkup.Proofs.FirstPlaces
import SceneMarkup.Proofs.Index.Lookup

namespace SceneMarkup
namespace Project

/-!
# Nodes in document order

What lies inside components is found by going through the subtree of every component.
A component inside another one brings a part of the same subtree again, so a node is
met once for each component around it, and only its first place counts.

Components are visited in document order.  By the time the walk comes to a component,
everything that lies below it and has been met before belongs to a component around
it, and everything else lies behind all that has been met.  First places therefore
stand in document order, whatever the nesting: the walk finds the nodes inside
components as if it went through the document once.
-/

/-- A node lies in the subtree of a component of the main document. -/
def InComponent (project : Project) (key : NodeKey) : Prop :=
  Exists fun component => component ∈ project.components ∧ key ∈ project.scene.subtree component

instance (project : Project) (key : NodeKey) : Decidable (project.InComponent key) :=
  inferInstanceAs (Decidable
    (Exists fun component => component ∈ project.components ∧
      key ∈ project.scene.subtree component))

/-- Addresses stand in the order of their document. -/
def InOrder (keys : List NodeKey) : Prop :=
  keys.Pairwise fun first second => first.index < second.index

theorem inOrder_subtree (scene : Scene) (key : NodeKey) : InOrder (scene.subtree key) := by
  rw [Scene.subtree, Document.subtree]
  exact List.Pairwise.map _ (fun _ _ before => before) List.pairwise_lt_range'

theorem InOrder.nodup {keys : List NodeKey} (ordered : InOrder keys) : keys.Nodup :=
  List.Pairwise.imp (fun before same => Nat.ne_of_lt before (congrArg NodeKey.index same)) ordered

/-- Addresses that stand in order are known from what they are. -/
theorem InOrder.eq_of_mem_iff {first second : List NodeKey} (firstOrdered : InOrder first)
    (secondOrdered : InOrder second) (same : forall key, key ∈ first ↔ key ∈ second) :
    first = second := by
  have distinct := (List.perm_ext_iff_of_nodup firstOrdered.nodup secondOrdered.nodup).mpr same
  refine distinct.eq_of_pairwise ?_ firstOrdered secondOrdered
  intro key other _ _ before behind
  exact absurd before (Nat.lt_asymm behind)

theorem inOrder_components (project : Project) : InOrder project.components := by
  rw [components, Document.components]
  exact List.Pairwise.map _ (fun _ _ before => before) (List.pairwise_lt_range.filter _)

/-- What lies in a later subtree and not in an earlier one lies behind all of it. -/
theorem index_lt_of_not_mem_subtree {scene : Scene} {first second key other : NodeKey}
    (firstNode : scene.IsNode first) (secondNode : scene.IsNode second)
    (sameFile : first.file = second.file) (before : first.index < second.index)
    (inside : key ∈ scene.subtree first) (beyond : other ∈ scene.subtree second)
    (outside : other ∉ scene.subtree first) : key.index < other.index := by
  rw [Scene.subtree_eq (Document.holds _ firstNode), List.mem_map] at inside outside
  rw [Scene.subtree_eq (Document.holds _ secondNode), List.mem_map] at beyond
  rcases inside with ⟨index, range, rfl⟩
  rcases beyond with ⟨otherIndex, otherRange, rfl⟩
  rw [List.mem_range'_1] at range otherRange
  by_contra notBefore
  apply outside
  refine ⟨otherIndex, ?_, by rw [sameFile]⟩
  rw [List.mem_range'_1]
  dsimp only at notBefore
  omega

/-- The first places of what lies in the subtrees of nodes are in document order, if
the nodes are. -/
theorem inOrder_eraseDups_subtrees {scene : Scene} {file : FileRef} {keys : List NodeKey}
    (nodes : forall key, key ∈ keys -> scene.IsNode key ∧ key.file = file)
    (ordered : InOrder keys) : InOrder (keys.flatMap scene.subtree).eraseDups := by
  induction keys with
  | nil => exact .nil
  | cons key rest ih =>
      rw [List.forall_mem_cons] at nodes
      rw [InOrder, List.pairwise_cons] at ordered
      have own := inOrder_subtree scene key
      rw [List.flatMap_cons, List.eraseDups_append, eraseDups_of_nodup own.nodup, List.removeAll,
        eraseDups_filter]
      refine List.pairwise_append.mpr ⟨own, (ih nodes.2 ordered.2).filter _, ?_⟩
      intro inside insideMember other otherMember
      rw [List.mem_filter, List.mem_eraseDups, List.mem_flatMap] at otherMember
      rcases otherMember with ⟨⟨component, listed, beyond⟩, outside⟩
      have place := nodes.2 component listed
      refine index_lt_of_not_mem_subtree nodes.1.1 place.1 (nodes.1.2.trans place.2.symm)
        (ordered.1 component listed) insideMember beyond ?_
      simpa using outside

variable {project : Project}

theorem isNode_of_mem_components {key : NodeKey} (member : key ∈ project.components) :
    project.scene.IsNode key ∧ key.file = .main := by
  rcases (mem_components_iff key).mp member with ⟨main, valid, _⟩
  exact ⟨valid, main⟩

/-- Whatever is met in the subtrees of components is inside a component, and the first
places stand in document order. -/
theorem inOrder_componentSubtrees (project : Project) :
    InOrder (project.components.flatMap project.scene.subtree).eraseDups :=
  inOrder_eraseDups_subtrees (fun _ member => isNode_of_mem_components member)
    (inOrder_components project)

theorem mem_componentSubtrees_iff (key : NodeKey) :
    key ∈ (project.components.flatMap project.scene.subtree).eraseDups ↔
      project.InComponent key := by
  rw [List.mem_eraseDups, List.mem_flatMap, InComponent]

/-- The nodes inside components, as a single walk through the document meets them. -/
def nodesInComponents (project : Project) : List NodeKey :=
  (project.scene.subtree ⟨.main, 0⟩).filter fun key => project.InComponent key

/-- The subtree of the root is the whole document. -/
theorem mem_subtree_root_iff (scene : Scene) (key : NodeKey) :
    key ∈ scene.subtree ⟨.main, 0⟩ ↔ key.file = .main ∧ scene.IsNode key := by
  have root : (scene.document .main).Holds 0 [] _ := (scene.document .main).holds_root
  rw [Scene.subtree_eq root, ← Document.size_eq, List.mem_map]
  constructor
  · rintro ⟨index, inside, rfl⟩
    rw [List.mem_range'_1, Nat.zero_add] at inside
    exact ⟨rfl, inside.2⟩
  · rintro ⟨main, valid⟩
    rw [Scene.IsNode, main] at valid
    refine ⟨key.index, ?_, NodeKey.eq_of_same_place main.symm rfl⟩
    rw [List.mem_range'_1, Nat.zero_add]
    exact ⟨Nat.zero_le _, valid⟩

/-- Component by component, first places are met as in a single walk. -/
theorem eraseDups_componentSubtrees (project : Project) :
    (project.components.flatMap project.scene.subtree).eraseDups = project.nodesInComponents := by
  refine (inOrder_componentSubtrees project).eq_of_mem_iff ((inOrder_subtree _ _).filter _) ?_
  intro key
  rw [mem_componentSubtrees_iff, nodesInComponents, List.mem_filter, decide_eq_true_eq,
    mem_subtree_root_iff]
  refine ⟨fun inside => ⟨?_, inside⟩, fun both => both.2⟩
  rcases inside with ⟨component, member, below⟩
  have place := isNode_of_mem_components member
  have contains := (Scene.mem_subtree_iff place.1 key).mp below
  have valid := contains.isNode place.1
  exact ⟨((Scene.contains_iff valid component).mp contains).1.symm.trans place.2, valid⟩

end Project
end SceneMarkup

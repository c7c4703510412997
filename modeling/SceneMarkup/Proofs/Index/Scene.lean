import SceneMarkup.Index.Scene
import SceneMarkup.Proofs.Index.Subtrees

namespace SceneMarkup

/-!
# Nodes above each other in a scene

An address consists of a document and a position, and a node never lies above a
node of another document.  What holds of the ranges of one document therefore
carries over to addresses as soon as the documents agree.

An address need not lead anywhere.  A position beyond the last one has no
ancestors, so a node that lies below another one is there.
-/

theorem NodeKey.eq_of_same_place {first second : NodeKey} (sameFile : first.file = second.file)
    (sameIndex : first.index = second.index) : first = second := by
  cases first
  cases second
  rw [NodeKey.mk.injEq]
  exact ⟨sameFile, sameIndex⟩

namespace Scene

variable {scene : Scene}

/-- The address of a node that is there. -/
def IsNode (scene : Scene) (key : NodeKey) : Prop :=
  key.index < (scene.document key.file).size

instance (scene : Scene) (key : NodeKey) : Decidable (scene.IsNode key) :=
  inferInstanceAs (Decidable (key.index < (scene.document key.file).size))

/-- One node is another one or lies above it. -/
def Contains (scene : Scene) (above key : NodeKey) : Prop :=
  above = key ∨ above ∈ scene.ancestors key

theorem mem_ancestors_iff {key : NodeKey} (valid : scene.IsNode key) (above : NodeKey) :
    above ∈ scene.ancestors key ↔ above.file = key.file ∧ above.index ≠ key.index ∧
      (scene.document key.file).Covers above.index key.index := by
  rw [ancestors, List.mem_map]
  constructor
  · rintro ⟨index, member, same⟩
    subst same
    exact ⟨rfl, (Document.mem_ancestors_iff valid index).mp member⟩
  · rintro ⟨sameFile, higher⟩
    refine ⟨above.index, (Document.mem_ancestors_iff valid above.index).mpr higher, ?_⟩
    rw [← sameFile]

theorem isNode_of_mem_ancestors {above key : NodeKey} (member : above ∈ scene.ancestors key) :
    scene.IsNode key := by
  by_contra outside
  rw [ancestors, Document.ancestors, Document.trail_eq_nil outside] at member
  cases member

/-- Containment is covering within one document. -/
theorem contains_iff {key : NodeKey} (valid : scene.IsNode key) (above : NodeKey) :
    scene.Contains above key ↔
      above.file = key.file ∧ (scene.document key.file).Covers above.index key.index := by
  rw [Contains, mem_ancestors_iff valid]
  constructor
  · intro contains
    rcases contains with same | ⟨sameFile, _, covers⟩
    · rw [same]
      exact ⟨rfl, Document.Covers.refl valid⟩
    · exact ⟨sameFile, covers⟩
  · intro higher
    by_cases same : above.index = key.index
    · exact Or.inl (NodeKey.eq_of_same_place higher.1 same)
    · exact Or.inr ⟨higher.1, same, higher.2⟩

/-- What lies below a node is there if the node is. -/
theorem Contains.isNode {above key : NodeKey} (contains : scene.Contains above key)
    (valid : scene.IsNode above) : scene.IsNode key := by
  rcases contains with same | member
  · rw [← same]
    exact valid
  · exact isNode_of_mem_ancestors member

/-- Where no node is, there are no children. -/
theorem children_eq_nil {key : NodeKey} (outside : ¬ scene.IsNode key) : scene.children key = [] := by
  rw [children, Document.children_eq_nil outside, List.map_nil]

/-- Where no node is, there is no subtree. -/
theorem subtree_eq_nil {key : NodeKey} (outside : ¬ scene.IsNode key) : scene.subtree key = [] := by
  rw [subtree, Document.subtree, Document.stop_eq_self outside, Nat.sub_self, List.range'_zero,
    List.map_nil]

/-- A subtree is a range of positions. -/
theorem subtree_eq {key : NodeKey} {trail : List Step} {node : Node}
    (held : (scene.document key.file).Holds key.index trail node) :
    scene.subtree key = (List.range' key.index node.size).map (NodeKey.mk key.file) := by
  rw [subtree, held.subtree_eq]

/-- The subtree of a node holds what the node contains. -/
theorem mem_subtree_iff {key : NodeKey} (valid : scene.IsNode key) (other : NodeKey) :
    other ∈ scene.subtree key ↔ scene.Contains key other := by
  rw [subtree, List.mem_map]
  constructor
  · rintro ⟨index, inside, same⟩
    have covers := (Document.mem_subtree_iff _ key.index index).mp inside
    have lower : scene.IsNode ⟨key.file, index⟩ := covers.lower_valid
    rw [← same, contains_iff lower]
    exact ⟨rfl, covers⟩
  · intro contains
    rcases (contains_iff (contains.isNode valid) key).mp contains with ⟨sameFile, covers⟩
    rw [← sameFile] at covers
    refine ⟨other.index, ?_, NodeKey.eq_of_same_place sameFile rfl⟩
    exact (Document.mem_subtree_iff _ key.index other.index).mpr covers

theorem isNode_of_mem_children {key child : NodeKey} (member : child ∈ scene.children key) :
    scene.IsNode child := by
  rcases List.mem_map.mp member with ⟨index, found, same⟩
  rw [← same]
  exact (Document.covers_of_mem_children found).lower_valid

theorem Contains.trans {outer above key : NodeKey} (first : scene.Contains outer above)
    (second : scene.Contains above key) (valid : scene.IsNode outer) :
    scene.Contains outer key := by
  have between := first.isNode valid
  have inner := second.isNode between
  rcases (contains_iff between outer).mp first with ⟨firstFile, upper⟩
  rcases (contains_iff inner above).mp second with ⟨secondFile, lower⟩
  rw [secondFile] at upper
  exact (contains_iff inner outer).mpr ⟨firstFile.trans secondFile, upper.trans lower⟩

/-- Statements about everything between two nodes are statements about positions. -/
theorem forall_between_iff {outer key : NodeKey} (valid : scene.IsNode key)
    (inside : scene.Contains outer key) (Holds : NodeKey -> Prop) :
    (forall between, scene.Contains outer between -> scene.Contains between key ->
        Holds between) ↔
      forall place, outer.index <= place ->
        (scene.document key.file).Covers place key.index -> Holds ⟨key.file, place⟩ := by
  rcases (contains_iff valid outer).mp inside with ⟨sameFile, covers⟩
  constructor
  · intro each place lower reaches
    have placeValid : scene.IsNode ⟨key.file, place⟩ := reaches.valid
    apply each
    · exact (contains_iff placeValid outer).mpr ⟨sameFile, covers.of_le reaches lower⟩
    · exact (contains_iff valid _).mpr ⟨rfl, reaches⟩
  · intro each between above below
    rcases (contains_iff valid between).mp below with ⟨betweenFile, reaches⟩
    have betweenValid : scene.IsNode between := by
      rw [IsNode, betweenFile]
      exact reaches.valid
    have lower := ((contains_iff betweenValid outer).mp above).2.1
    have result := each between.index lower reaches
    rw [← betweenFile] at result
    exact result

end Scene
end SceneMarkup

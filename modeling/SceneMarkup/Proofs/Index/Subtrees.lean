import Mathlib.Tactic.ByContra
import SceneMarkup.Index.Subtrees

namespace SceneMarkup

/-!
# Subtrees as ranges of positions

Ancestors are kept as trails and subtrees as ranges.  The main result identifies
them: one position lies above another one if and only if its range covers the
other.  Arguments about a walk through a tree can then speak of ranges alone,
where nesting is arithmetic.
-/

namespace Document

variable {document : Document}

/-! ## Covering -/

/-- A position that is not before a tree and covers one behind it is behind the
tree itself: what begins inside a tree ends there. -/
theorem Holds.end_le_of_covers {start above index : Nat} {trail : List Step} {node : Node}
    (held : document.Holds start trail node) (begins : start <= above)
    (behind : start + node.size <= index) (reaches : index < document.stop above) :
    start + node.size <= above := by
  by_contra within
  have before : above < start + node.size := Nat.lt_of_not_le within
  rcases held.inside begins before with ⟨inner, found, stands, ends⟩
  rw [stands.stop_eq] at reaches
  omega

/-- The subtree at one position contains another position, possibly as its
root. -/
def Covers (document : Document) (above index : Nat) : Prop :=
  above <= index ∧ index < document.stop above

theorem mem_subtree_iff (document : Document) (index other : Nat) :
    other ∈ document.subtree index ↔ document.Covers index other := by
  rw [subtree, List.mem_range'_1, Covers]
  omega

theorem Covers.refl {index : Nat} (valid : index < document.size) :
    document.Covers index index := by
  have positive := (document.node index).size_pos
  refine ⟨Nat.le_refl _, ?_⟩
  rw [(document.holds valid).stop_eq]
  omega

theorem stop_le_size {index : Nat} (valid : index < document.size) :
    document.stop index <= document.size := by
  have held := document.holds valid
  rw [held.stop_eq]
  exact held.end_le

/-- A position beyond the last one covers nothing. -/
theorem Covers.valid {above index : Nat} (covers : document.Covers above index) :
    above < document.size := by
  by_contra outside
  have nothing := covers.2
  rw [stop_eq_self outside] at nothing
  exact Nat.lt_irrefl _ (Nat.lt_of_lt_of_le nothing covers.1)

theorem Covers.lower_valid {above index : Nat} (covers : document.Covers above index) :
    index < document.size :=
  Nat.lt_of_lt_of_le covers.2 (stop_le_size covers.valid)

/-- Subtrees are nested: a subtree that begins inside another one ends there. -/
theorem Covers.stop_le {above index : Nat} (covers : document.Covers above index) :
    document.stop index <= document.stop above := by
  have held := document.holds covers.valid
  have upper := covers.2
  rw [held.stop_eq] at upper ⊢
  rcases held.inside covers.1 upper with ⟨inner, found, stands, ends⟩
  rw [stands.stop_eq]
  exact ends

theorem Covers.trans {outer above index : Nat} (first : document.Covers outer above)
    (second : document.Covers above index) : document.Covers outer index :=
  ⟨Nat.le_trans first.1 second.1, Nat.lt_of_lt_of_le second.2 first.stop_le⟩

/-- Of two subtrees that contain a position, the one that begins later lies
inside the other. -/
theorem Covers.of_le {outer above index : Nat} (first : document.Covers outer index)
    (second : document.Covers above index) (order : outer <= above) :
    document.Covers outer above :=
  ⟨order, Nat.lt_of_le_of_lt second.1 first.2⟩

mutual

/-- The ancestors of a position inside a tree are those of the tree and the
positions inside the tree that cover it. -/
theorem Holds.mem_ancestors {start : Nat} {trail : List Step} :
    {node : Node} -> (held : document.Holds start trail node) -> {index : Nat} ->
      start <= index -> index < start + node.size -> (above : Nat) ->
        (above ∈ document.ancestors index ↔
          above ∈ trail.map (·.parent) ∨
            (start <= above ∧ above < index ∧ index < document.stop above))
  | .leaf id name kind, held, index, lower, upper, above => by
      have same : index = start := by
        rw [Node.size] at upper
        omega
      rw [same, ancestors, held.trail_eq]
      constructor
      · exact Or.inl
      · rintro (member | inner)
        · exact member
        · omega
  | .container id name kind children, held, index, lower, upper, above => by
      by_cases root : index = start
      · rw [root, ancestors, held.trail_eq]
        constructor
        · exact Or.inl
        · rintro (member | inner)
          · exact member
          · omega
      · have stops := held.stop_eq
        rw [Node.size] at upper stops
        have after : start + 1 <= index := by omega
        have before : index < start + 1 + Node.sizeAll children := by omega
        have below : document.HoldsBelow (start + 1) start 0 trail children := held.below
        rw [HoldsBelow.mem_ancestors below after before above]
        constructor
        · rintro (same | outside | inner)
          · refine Or.inr ⟨by omega, by omega, ?_⟩
            rw [same, stops]
            omega
          · exact Or.inl outside
          · exact Or.inr ⟨by omega, inner.2⟩
        · rintro (outside | inner)
          · exact Or.inr (Or.inl outside)
          · by_cases same : above = start
            · exact Or.inl same
            · exact Or.inr (Or.inr ⟨by omega, inner.2⟩)

/-- The ancestors of a position inside sibling trees are their parent, the
ancestors of the parent, and the positions inside the trees that cover it. -/
theorem HoldsBelow.mem_ancestors {next parent branch : Nat} {trail : List Step} :
    {nodes : List Node} -> (held : document.HoldsBelow next parent branch trail nodes) ->
      {index : Nat} -> next <= index -> index < next + Node.sizeAll nodes -> (above : Nat) ->
        (above ∈ document.ancestors index ↔
          above = parent ∨ above ∈ trail.map (·.parent) ∨
            (next <= above ∧ above < index ∧ index < document.stop above))
  | [], _, index, lower, upper, above => by
      rw [Node.sizeAll] at upper
      omega
  | node :: rest, held, index, lower, upper, above => by
      rw [Node.sizeAll] at upper
      by_cases first : index < next + node.size
      · rw [Holds.mem_ancestors held.head lower first above, List.map_cons, List.mem_cons, or_assoc]
      · have after : next + node.size <= index := Nat.le_of_not_lt first
        have before : index < next + node.size + Node.sizeAll rest := by omega
        rw [HoldsBelow.mem_ancestors held.tail after before above]
        constructor
        · rintro (same | outside | inner)
          · exact Or.inl same
          · exact Or.inr (Or.inl outside)
          · exact Or.inr (Or.inr ⟨by omega, inner.2⟩)
        · rintro (same | outside | inner)
          · exact Or.inl same
          · exact Or.inr (Or.inl outside)
          · exact Or.inr (Or.inr ⟨held.head.end_le_of_covers inner.1 after inner.2.2, inner.2⟩)

end

/-- The ancestors of a position are the positions before it that cover it. -/
theorem mem_ancestors_iff {index : Nat} (valid : index < document.size) (above : Nat) :
    above ∈ document.ancestors index ↔ above ≠ index ∧ document.Covers above index := by
  rw [size_eq] at valid
  have inside : index < 0 + document.root.size := by omega
  rw [document.holds_root.mem_ancestors (Nat.zero_le index) inside above]
  unfold Covers
  constructor
  · rintro (impossible | inner)
    · cases impossible
    · exact ⟨by omega, by omega, inner.2.2⟩
  · rintro ⟨different, lower, upper⟩
    exact Or.inr ⟨Nat.zero_le above, by omega, upper⟩

/-! ## Children -/

/-- Where a sibling stands, and that its subtree lies among those of the others. -/
theorem HoldsBelow.sibling {parent : Nat} {trail : List Step} {nodes : List Node} :
    forall {next branch : Nat}, document.HoldsBelow next parent branch trail nodes ->
      forall {place child : Nat}, (document.siblings next nodes)[place]? = some child ->
        Exists fun node => nodes[place]? = some node ∧
          document.Holds child (⟨parent, branch + place⟩ :: trail) node ∧
          next <= child ∧ child + node.size <= next + Node.sizeAll nodes := by
  induction nodes with
  | nil =>
      intro next branch held place child found
      cases found
  | cons node rest ih =>
      intro next branch held place child found
      rw [siblings, held.head.stop_eq] at found
      rw [Node.sizeAll]
      cases place with
      | zero =>
          rw [← Option.some.inj found]
          exact ⟨node, rfl, held.head, Nat.le_refl _, by omega⟩
      | succ place =>
          rcases ih held.tail found with ⟨other, there, stands, after, before⟩
          rw [Nat.add_assoc, Nat.add_comm 1 place] at stands
          exact ⟨other, there, stands, by omega, by omega⟩

/-- Hopping from one subtree to the next one leads to sibling after sibling, and
nowhere behind the last of them. -/
theorem HoldsBelow.hop_eq {parent : Nat} {trail : List Step} {nodes : List Node} :
    forall {next branch : Nat}, document.HoldsBelow next parent branch trail nodes ->
      forall place, document.hop (next + Node.sizeAll nodes) next place =
        (document.siblings next nodes)[place]? := by
  induction nodes with
  | nil =>
      intro next branch held place
      rw [Node.sizeAll, Nat.add_zero, siblings, List.getElem?_nil]
      cases place <;> exact if_neg (Nat.lt_irrefl next)
  | cons node rest ih =>
      intro next branch held place
      have positive := node.size_pos
      have inside : next < next + (node.size + Node.sizeAll rest) := by omega
      rw [Node.sizeAll, siblings, held.head.stop_eq]
      cases place with
      | zero => rw [hop, if_pos inside, List.getElem?_cons_zero]
      | succ place =>
          rw [hop, if_pos inside, held.head.stop_eq, List.getElem?_cons_succ, ← Nat.add_assoc]
          exact ih held.tail place

/-- The children that are found by hopping are those of the node. -/
theorem child?_eq (document : Document) (index branch : Nat) :
    document.child? index branch = (document.children index)[branch]? := by
  rw [child?, children]
  by_cases valid : index < document.size
  · have held := document.holds valid
    have hopped := held.below.hop_eq branch
    rw [held.stop_eq, Node.size_eq, Nat.add_comm _ 1, ← Nat.add_assoc]
    exact hopped
  · rw [node_eq_blank valid, stop_eq_self valid, Node.blank, Node.children, siblings,
      List.getElem?_nil]
    cases branch <;> exact if_neg Nat.not_succ_lt_self

/-- A child lies in the subtree of its parent. -/
theorem covers_of_mem_children {index child : Nat} (member : child ∈ document.children index) :
    document.Covers index child := by
  by_cases valid : index < document.size
  · have held := document.holds valid
    rcases List.getElem?_of_mem member with ⟨place, found⟩
    rcases held.below.sibling found with ⟨node, _, _, after, before⟩
    have positive := node.size_pos
    have stops := held.stop_eq
    rw [Node.size_eq] at stops
    unfold Covers
    omega
  · rw [children_eq_nil valid] at member
    cases member

theorem mem_components_iff (document : Document) (index : Nat) :
    index ∈ document.components ↔
      index < document.size ∧ (document.node index).isComponent = true := by
  rw [components, List.mem_filter, List.mem_range]

end Document
end SceneMarkup

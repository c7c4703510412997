import Mathlib.Data.List.Sort
import SceneMarkup.Proofs.Index.Subtrees

namespace SceneMarkup
namespace Document

/-!
# Pruned walks

Markup is written by walks that go down from a component and leave some subtrees
out.  Two questions decide where a walk gets: whether it visits a node at all,
and whether it goes on to the children of a node it has visited.

A walk finds a position exactly when nothing on the way down to it says no.
Which nodes lie on that way is known from the ranges of the positions alone, so
two walks can be compared without following either of them.  A walk also keeps
the order of the document, and therefore finds nothing twice.
-/

mutual

/-- The positions that a walk finds in a tree whose root has the number
`index`. -/
def walkAt (visits : Nat -> Node -> Bool) (descends : Nat -> Bool) (index : Nat) :
    Node -> List Nat
  | .container id name kind children =>
      if visits index (.container id name kind children) then
        index :: if descends index then walkFrom visits descends (index + 1) children else []
      else []
  | .leaf id name kind => if visits index (.leaf id name kind) then [index] else []

/-- The positions that a walk finds in sibling trees numbered from `next`. -/
def walkFrom (visits : Nat -> Node -> Bool) (descends : Nat -> Bool) (next : Nat) :
    List Node -> List Nat
  | [] => []
  | node :: rest =>
      walkAt visits descends next node ++ walkFrom visits descends (next + node.size) rest

end

theorem walkAt_eq (visits : Nat -> Node -> Bool) (descends : Nat -> Bool) (index : Nat)
    (node : Node) :
    walkAt visits descends index node =
      if visits index node then
        index :: if descends index then walkFrom visits descends (index + 1) node.children else []
      else [] := by
  cases node with
  | container id name kind children => rfl
  | leaf id name kind => rw [walkAt, Node.children, walkFrom, ite_self]

variable {document : Document} {visits : Nat -> Node -> Bool} {descends : Nat -> Bool}

/-- Nothing between a position and one inside its subtree, both included, keeps a
walk from going on. -/
def Open (document : Document) (visits : Nat -> Node -> Bool) (descends : Nat -> Bool)
    (start index : Nat) : Prop :=
  forall above, start <= above -> document.Covers above index ->
    visits above (document.node above) = true ∧ (above ≠ index -> descends above = true)

/-- Where the root is visited, what is open behind it is open from it on as soon
as the walk descends from it. -/
theorem open_iff_of_lt {start index : Nat} (covers : document.Covers start index)
    (later : start < index) :
    document.Open visits descends start index ↔
      visits start (document.node start) = true ∧ descends start = true ∧
        document.Open visits descends (start + 1) index := by
  constructor
  · intro free
    have root := free start (Nat.le_refl _) covers
    refine ⟨root.1, root.2 (Nat.ne_of_lt later), ?_⟩
    intro above lower reaches
    exact free above (Nat.le_of_succ_le lower) reaches
  · rintro ⟨visited, descended, free⟩ above lower reaches
    by_cases same : above = start
    · rw [same]
      exact ⟨visited, fun _ => descended⟩
    · exact free above (by omega) reaches

theorem open_self_iff {index : Nat} (valid : index < document.size) :
    document.Open visits descends index index ↔ visits index (document.node index) = true := by
  constructor
  · intro free
    exact (free index (Nat.le_refl _) (Covers.refl valid)).1
  · intro visited above lower reaches
    have same : above = index := Nat.le_antisymm reaches.1 lower
    rw [same]
    exact ⟨visited, fun different => absurd rfl different⟩

mutual

theorem Holds.mem_walkAt_iff {start : Nat} {trail : List Step} :
    {node : Node} -> (held : document.Holds start trail node) -> (index : Nat) ->
      (index ∈ walkAt visits descends start node ↔
        document.Covers start index ∧ document.Open visits descends start index)
  | .leaf id name kind, held, index => by
      have stops := held.stop_eq
      have root := held.node_eq
      have valid : start < document.size := Nat.lt_of_lt_of_le (Nat.lt_succ_self _) held.end_le
      rw [Node.size] at stops
      rw [walkAt]
      constructor
      · intro found
        split at found
        · rename_i visited
          rw [List.mem_singleton.mp found]
          exact ⟨Covers.refl valid, (open_self_iff valid).mpr (root ▸ visited)⟩
        · cases found
      · rintro ⟨covers, free⟩
        have same : index = start := by
          unfold Covers at covers
          omega
        rw [same] at free ⊢
        have visited := (open_self_iff valid).mp free
        rw [root] at visited
        rw [if_pos visited]
        exact List.mem_singleton_self _
  | .container id name kind children, held, index => by
      have stops := held.stop_eq
      have root := held.node_eq
      have below : document.HoldsBelow (start + 1) start 0 trail children := held.below
      have valid : start < document.size :=
        Nat.lt_of_lt_of_le (Nat.lt_add_of_pos_right (Node.size_pos _)) held.end_le
      rw [Node.size] at stops
      rw [walkAt]
      by_cases same : index = start
      · rw [same, open_self_iff valid, root]
        constructor
        · intro found
          split at found
          · rename_i visited
            exact ⟨Covers.refl valid, visited⟩
          · cases found
        · rintro ⟨_, visited⟩
          rw [if_pos visited]
          exact List.mem_cons_self
      · have inner : index ∈ walkFrom visits descends (start + 1) children ↔
            start + 1 <= index ∧ index < start + 1 + Node.sizeAll children ∧
              document.Open visits descends (start + 1) index :=
          HoldsBelow.mem_walkFrom_iff below index
        constructor
        · intro found
          split at found
          · rename_i visited
            rcases List.mem_cons.mp found with impossible | deeper
            · exact absurd impossible same
            · split at deeper
              · rename_i descended
                have reached := inner.mp deeper
                have covers : document.Covers start index := by
                  unfold Covers
                  omega
                refine ⟨covers, (open_iff_of_lt covers (by omega)).mpr ?_⟩
                exact ⟨root ▸ visited, descended, reached.2.2⟩
              · cases deeper
          · cases found
        · rintro ⟨covers, free⟩
          have later : start < index := Nat.lt_of_le_of_ne covers.1 (Ne.symm same)
          rcases (open_iff_of_lt covers later).mp free with ⟨visited, descended, deeper⟩
          rw [root] at visited
          rw [if_pos visited, if_pos descended]
          have upper := covers.2
          refine List.mem_cons_of_mem _ (inner.mpr ⟨by omega, by omega, deeper⟩)

theorem HoldsBelow.mem_walkFrom_iff {next parent branch : Nat} {trail : List Step} :
    {nodes : List Node} -> (held : document.HoldsBelow next parent branch trail nodes) ->
      (index : Nat) ->
        (index ∈ walkFrom visits descends next nodes ↔
          next <= index ∧ index < next + Node.sizeAll nodes ∧
            document.Open visits descends next index)
  | [], _, index => by
      rw [walkFrom, Node.sizeAll]
      constructor
      · intro impossible
        cases impossible
      · rintro ⟨lower, upper, _⟩
        omega
  | node :: rest, held, index => by
      have stops := held.head.stop_eq
      rw [walkFrom, Node.sizeAll, List.mem_append, Holds.mem_walkAt_iff held.head index,
        HoldsBelow.mem_walkFrom_iff held.tail index]
      unfold Covers
      constructor
      · rintro (⟨covers, free⟩ | ⟨lower, upper, free⟩)
        · exact ⟨covers.1, by omega, free⟩
        · refine ⟨by omega, by omega, ?_⟩
          intro above begins reaches
          exact free above (held.head.end_le_of_covers begins lower reaches.2) reaches
      · rintro ⟨lower, upper, free⟩
        by_cases first : index < next + node.size
        · exact Or.inl ⟨by omega, free⟩
        · refine Or.inr ⟨by omega, by omega, ?_⟩
          intro above begins reaches
          exact free above (by omega) reaches

end

mutual

/-- A walk keeps the order of the document. -/
theorem walkAt_sublist (visits : Nat -> Node -> Bool) (descends : Nat -> Bool) (index : Nat) :
    (node : Node) ->
      (walkAt visits descends index node).Sublist (List.range' index node.size)
  | .leaf id name kind => by
      rw [walkAt, Node.size]
      split
      · exact List.Sublist.refl _
      · exact List.nil_sublist _
  | .container id name kind children => by
      rw [walkAt, Node.size, List.range'_succ]
      split
      · refine List.Sublist.cons_cons _ ?_
        split
        · exact walkFrom_sublist visits descends (index + 1) children
        · exact List.nil_sublist _
      · exact List.nil_sublist _

theorem walkFrom_sublist (visits : Nat -> Node -> Bool) (descends : Nat -> Bool) (next : Nat) :
    (nodes : List Node) ->
      (walkFrom visits descends next nodes).Sublist (List.range' next (Node.sizeAll nodes))
  | [] => List.nil_sublist _
  | node :: rest => by
      rw [walkFrom, Node.sizeAll, ← List.range'_append_1]
      exact (walkAt_sublist visits descends next node).append
        (walkFrom_sublist visits descends (next + node.size) rest)

end

theorem walkAt_nodup (visits : Nat -> Node -> Bool) (descends : Nat -> Bool) (index : Nat)
    (node : Node) : (walkAt visits descends index node).Nodup :=
  List.Sublist.nodup (walkAt_sublist visits descends index node) (List.nodup_range')

/-- What a walk from a position finds, told by ranges alone. -/
theorem mem_walkAt_iff {start : Nat} (valid : start < document.size) (index : Nat) :
    index ∈ walkAt visits descends start (document.node start) ↔
      document.Covers start index ∧ document.Open visits descends start index :=
  (document.holds valid).mem_walkAt_iff index

/-- What a walk below a position finds, told by ranges alone. -/
theorem mem_walkFrom_iff {start : Nat} (valid : start < document.size) (index : Nat) :
    index ∈ walkFrom visits descends (start + 1) (document.node start).children ↔
      start < index ∧ document.Covers start index ∧
        document.Open visits descends (start + 1) index := by
  have held := document.holds valid
  rw [held.below.mem_walkFrom_iff index]
  have stops := held.stop_eq
  rw [Node.size_eq] at stops
  unfold Covers
  constructor
  · rintro ⟨lower, upper, free⟩
    exact ⟨lower, ⟨by omega, by omega⟩, free⟩
  · rintro ⟨lower, covers, free⟩
    exact ⟨lower, by omega, free⟩

open Classical in
/-- A walk finds what is open in the subtree of its start, in the order of the
document. -/
theorem walkAt_eq_filter {start : Nat} (valid : start < document.size) :
    walkAt visits descends start (document.node start) =
      (document.subtree start).filter fun index =>
        decide (document.Open visits descends start index) := by
  have increasing : (document.subtree start).Pairwise (· < ·) := List.pairwise_lt_range'
  apply List.Pairwise.eq_of_mem_iff (r := (· < ·))
  · have walked := walkAt_sublist visits descends start (document.node start)
    rw [← (document.holds valid).subtree_eq] at walked
    exact increasing.sublist walked
  · exact increasing.filter _
  · intro index
    rw [mem_walkAt_iff valid, List.mem_filter, mem_subtree_iff, decide_eq_true_eq]

end Document
end SceneMarkup

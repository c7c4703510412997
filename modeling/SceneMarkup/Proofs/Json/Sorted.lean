import SceneMarkup.Json.Value
import SceneMarkup.Proofs.OrderedMap

namespace SceneMarkup
namespace Json

/-!
# Sorted objects

Sorting an object inserts its entries one after the other.  The result ascends, so no
name stands twice in it, and a lookup finds what it found before, as long as no name
stood twice before either.  Entries that ascend already stay where they are.
-/

theorem sortedItems_eq (items : List Json) : sortedItems items = items.map sorted := by
  induction items with
  | nil => rfl
  | cons item rest ih => rw [sortedItems, ih, List.map_cons]

theorem sortedEntries_eq (entries : List (String × Json)) :
    sortedEntries entries = entries.map fun entry => (entry.1, sorted entry.2) := by
  induction entries with
  | nil => rfl
  | cons entry rest ih => rw [sortedEntries, ih, List.map_cons]

/-- Insert entries one after the other into sorted ones. -/
def insertAllSorted (entries result : List (String × Json)) : List (String × Json) :=
  entries.foldl (fun result entry => insertSorted entry.1 entry.2 result) result

theorem mem_insertSorted {name : String} {value : Json} {entries : List (String × Json)}
    {entry : String × Json} (member : entry ∈ insertSorted name value entries) :
    entry = (name, value) ∨ entry ∈ entries := by
  induction entries with
  | nil => exact Or.inl (List.mem_singleton.mp member)
  | cons first rest ih =>
      rw [insertSorted] at member
      split at member
      · exact List.mem_cons.mp member
      · split at member
        · rcases List.mem_cons.mp member with here | later
          · exact Or.inl here
          · exact Or.inr (List.mem_cons_of_mem _ later)
        · rcases List.mem_cons.mp member with here | later
          · exact Or.inr (here ▸ List.mem_cons_self)
          · rcases ih later with new | old
            · exact Or.inl new
            · exact Or.inr (List.mem_cons_of_mem _ old)

theorem lookup_insertSorted (name sought : String) (value : Json)
    (entries : List (String × Json)) :
    (insertSorted name value entries).lookup sought =
      if sought = name then some value else entries.lookup sought := by
  induction entries with
  | nil => exact lookup_cons_eq_ite (name, value) [] sought
  | cons entry rest ih =>
      rw [insertSorted]
      split
      · exact lookup_cons_eq_ite (name, value) _ sought
      · split
        · rename_i same
          rw [lookup_cons_eq_ite, lookup_cons_eq_ite, same]
          split <;> rfl
        · rename_i different
          rw [lookup_cons_eq_ite, lookup_cons_eq_ite, ih]
          by_cases here : sought = name
          · have elsewhere : ¬ sought = entry.1 := fun equal => different (equal.symm.trans here)
            rw [if_neg elsewhere, if_pos here, if_pos here]
          · rw [if_neg here, if_neg here]

/-- Names stand in strict order. -/
def Ascending (entries : List (String × Json)) : Prop :=
  entries.Pairwise fun first second => first.1 < second.1

theorem Ascending.distinct {entries : List (String × Json)} (ascending : Ascending entries) :
    (entries.map Prod.fst).Nodup := by
  rw [List.Nodup, List.pairwise_map]
  refine List.Pairwise.imp ?_ ascending
  intro first second less same
  exact String.lt_irrefl _ (same ▸ less)

theorem Ascending.insertSorted {entries : List (String × Json)} (ascending : Ascending entries)
    (name : String) (value : Json) : Ascending (insertSorted name value entries) := by
  induction entries with
  | nil => exact List.pairwise_singleton _ _
  | cons entry rest ih =>
      rcases List.pairwise_cons.mp ascending with ⟨first, others⟩
      rw [Json.insertSorted]
      split
      · rename_i less
        refine List.pairwise_cons.mpr ⟨?_, ascending⟩
        rw [List.forall_mem_cons]
        exact ⟨less, fun other member => String.lt_trans less (first other member)⟩
      · rename_i notLess
        split
        · rename_i same
          exact List.pairwise_cons.mpr ⟨same ▸ first, others⟩
        · rename_i different
          refine List.pairwise_cons.mpr ⟨?_, ih others⟩
          intro other member
          rcases mem_insertSorted member with new | old
          · rw [new]
            exact Decidable.not_not.mp fun notGreater => different
              (String.le_antisymm (String.not_lt.mp notLess) (String.not_lt.mp notGreater))
          · exact first other old

theorem insertSorted_of_less {name : String} {entries : List (String × Json)}
    (less : forall entry, entry ∈ entries -> entry.1 < name) (value : Json) :
    insertSorted name value entries = entries ++ [(name, value)] := by
  induction entries with
  | nil => rfl
  | cons entry rest ih =>
      have first := less entry List.mem_cons_self
      have others := ih fun other member => less other (List.mem_cons_of_mem _ member)
      have different : ¬ entry.1 = name := fun same => String.lt_irrefl _ (same ▸ first)
      rw [insertSorted, if_neg (String.lt_asymm first), if_neg different, others,
        List.cons_append]

/-- Ascending entries stay as they are. -/
theorem insertAllSorted_of_ascending {entries result : List (String × Json)}
    (ascending : Ascending (result ++ entries)) :
    insertAllSorted entries result = result ++ entries := by
  induction entries generalizing result with
  | nil => exact (List.append_nil result).symm
  | cons entry rest ih =>
      have less : forall other, other ∈ result -> other.1 < entry.1 := fun other member =>
        (List.pairwise_append.mp ascending).2.2 other member entry List.mem_cons_self
      rw [List.append_cons result entry rest] at ascending ⊢
      rw [insertAllSorted, List.foldl_cons, insertSorted_of_less less]
      exact ih ascending

theorem ascending_insertAllSorted {entries result : List (String × Json)}
    (ascending : Ascending result) : Ascending (insertAllSorted entries result) := by
  induction entries generalizing result with
  | nil => exact ascending
  | cons entry rest ih => exact ih (ascending.insertSorted entry.1 entry.2)

theorem mem_insertAllSorted {entries result : List (String × Json)} {entry : String × Json}
    (member : entry ∈ insertAllSorted entries result) : entry ∈ entries ∨ entry ∈ result := by
  induction entries generalizing result with
  | nil => exact Or.inr member
  | cons first rest ih =>
      rcases ih member with later | before
      · exact Or.inl (List.mem_cons_of_mem _ later)
      · rcases mem_insertSorted before with new | old
        · exact Or.inl (new ▸ List.mem_cons_self)
        · exact Or.inr old

theorem lookup_insertAllSorted {entries result : List (String × Json)}
    (distinct : (entries.map Prod.fst).Nodup) (name : String) :
    (insertAllSorted entries result).lookup name =
      (entries.lookup name).or (result.lookup name) := by
  induction entries generalizing result with
  | nil => rfl
  | cons entry rest ih =>
      have parts := List.nodup_cons.mp distinct
      change (insertAllSorted rest (insertSorted entry.1 entry.2 result)).lookup name = _
      rw [ih parts.2, lookup_insertSorted, lookup_cons_eq_ite]
      by_cases same : name = entry.1
      · have absent : rest.lookup name = none := lookup_eq_none_of_absent (same ▸ parts.1)
        rw [if_pos same, if_pos same, absent]
        rfl
      · rw [if_neg same, if_neg same]

end Json
end SceneMarkup

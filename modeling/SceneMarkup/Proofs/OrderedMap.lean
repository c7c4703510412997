import SceneMarkup.OrderedMap

namespace SceneMarkup

/-!
# Looking names up

A map in insertion order is observed by looking its names up.  The laws here say
what each operation does to that observation, so later arguments about styles
never unfold an insertion.

Lists of entries appear beside maps, because a map is often made from a list
that was filtered or rewritten first.  A list may repeat a name; a lookup then
finds its first entry, whereas a map made from the list keeps its last one.  The
two agree exactly where no name repeats, and that premise is stated wherever it
is used.
-/

variable {Value : Type}

/-! ## Lists of entries -/

theorem lookup_cons_eq_ite (entry : String × Value) (rest : List (String × Value))
    (name : String) :
    (entry :: rest).lookup name = if name = entry.1 then some entry.2 else rest.lookup name := by
  rcases entry with ⟨first, value⟩
  rw [List.lookup_cons]
  by_cases same : name = first
  · simp [same]
  · simp only [beq_eq_false_iff_ne.mpr same, if_neg same]

theorem lookup_insertEntry (name sought : String) (value : Value)
    (entries : List (String × Value)) :
    (insertEntry name value entries).lookup sought =
      if sought = name then some value else entries.lookup sought := by
  induction entries with
  | nil => exact lookup_cons_eq_ite (name, value) [] sought
  | cons entry rest ih =>
      by_cases here : entry.1 = name
      · subst here
        rw [insertEntry, if_pos rfl, lookup_cons_eq_ite, lookup_cons_eq_ite]
        by_cases same : sought = entry.1 <;> simp only [same, if_true, if_false]
      · rw [insertEntry, if_neg here, lookup_cons_eq_ite, lookup_cons_eq_ite, ih]
        by_cases same : sought = name
        · have other : ¬ sought = entry.1 := fun equal => here (equal.symm.trans same)
          rw [if_neg other, if_pos same, if_pos same]
        · rw [if_neg same, if_neg same]

theorem mem_of_lookup {Name : Type} [BEq Name] [LawfulBEq Name] {entries : List (Name × Value)}
    {name : Name} {value : Value} (found : entries.lookup name = some value) : (name, value) ∈ entries := by
  rcases List.lookup_eq_some_iff.mp found with ⟨before, after, split, _⟩
  rw [split]
  exact List.mem_append_right _ List.mem_cons_self

theorem lookup_eq_none_of_absent {entries : List (String × Value)} {name : String}
    (absent : name ∉ entries.map Prod.fst) : entries.lookup name = none := by
  rw [List.lookup_eq_none_iff]
  intro entry member
  rw [bne_iff_ne]
  exact fun same => absent (same ▸ List.mem_map_of_mem member)

theorem lookup_append_of_absent {before : List (String × Value)} {name : String}
    (absent : name ∉ before.map Prod.fst) (entries : List (String × Value)) :
    (before ++ entries).lookup name = entries.lookup name := by
  rw [List.lookup_append, lookup_eq_none_of_absent absent, Option.none_or]

/-- Where no name repeats, looking a name up finds every entry. -/
theorem lookup_eq_some_iff_mem {entries : List (String × Value)}
    (distinct : (entries.map Prod.fst).Nodup) (name : String) (value : Value) :
    entries.lookup name = some value ↔ (name, value) ∈ entries := by
  induction entries with
  | nil => simp
  | cons entry rest ih =>
      have distinctParts := List.nodup_cons.mp distinct
      rw [lookup_cons_eq_ite, List.mem_cons]
      by_cases same : name = entry.1
      · subst same
        have absent : ¬ (entry.1, value) ∈ rest := fun later =>
          distinctParts.1 (List.mem_map.mpr ⟨_, later, rfl⟩)
        simp only [if_true, Option.some.injEq, absent, or_false, Prod.ext_iff, true_and]
        exact eq_comm
      · have different : ¬ (name, value) = entry := fun equal => same (congrArg Prod.fst equal)
        simp only [if_neg same, different, false_or]
        exact ih distinctParts.2

/-- Names whose entries are the same are looked up alike, whatever their order. -/
theorem lookup_eq_of_mem_iff {first second : List (String × Value)}
    (firstDistinct : (first.map Prod.fst).Nodup) (secondDistinct : (second.map Prod.fst).Nodup)
    (name : String) (same : forall value, (name, value) ∈ first ↔ (name, value) ∈ second) :
    first.lookup name = second.lookup name := by
  apply Option.ext
  intro value
  rw [lookup_eq_some_iff_mem firstDistinct, lookup_eq_some_iff_mem secondDistinct]
  exact same value

theorem lookup_reverse {entries : List (String × Value)}
    (distinct : (entries.map Prod.fst).Nodup) (name : String) :
    entries.reverse.lookup name = entries.lookup name := by
  apply lookup_eq_of_mem_iff _ distinct
  · intro value
    exact List.mem_reverse
  · rw [List.map_reverse]
    exact List.pairwise_reverse.mpr (distinct.imp Ne.symm)

/-- Filtering entries filters what a lookup finds. -/
theorem lookup_filter {entries : List (String × Value)}
    (distinct : (entries.map Prod.fst).Nodup) (keep : String × Value -> Bool) (name : String) :
    (entries.filter keep).lookup name =
      (entries.lookup name).filter fun value => keep (name, value) := by
  apply Option.ext
  intro value
  have kept : ((entries.filter keep).map Prod.fst).Nodup :=
    List.Nodup.sublist (List.filter_sublist.map Prod.fst) distinct
  rw [lookup_eq_some_iff_mem kept, List.mem_filter, Option.filter_eq_some_iff,
    lookup_eq_some_iff_mem distinct]

/-- Rewriting the values of entries rewrites what a lookup finds. -/
theorem lookup_map_values {Other : Type} (entries : List (String × Value))
    (rewrite : Value -> Other) (name : String) :
    (entries.map fun entry => (entry.1, rewrite entry.2)).lookup name =
      (entries.lookup name).map rewrite := by
  induction entries with
  | nil => rfl
  | cons entry rest ih =>
      rw [List.map_cons, lookup_cons_eq_ite, lookup_cons_eq_ite, ih]
      by_cases same : name = entry.1 <;> simp only [same, if_true, if_false, Option.map_some]

/-- An insertion and a filter on names may change places, unless the filter drops
the inserted name. -/
theorem filter_insertEntry (keep : String -> Bool) (name : String) (value : Value)
    (entries : List (String × Value)) :
    (insertEntry name value entries).filter (fun entry => keep entry.1) =
      if keep name then insertEntry name value (entries.filter fun entry => keep entry.1)
      else entries.filter fun entry => keep entry.1 := by
  induction entries with
  | nil => cases kept : keep name <;> simp [insertEntry, kept]
  | cons entry rest ih =>
      by_cases same : entry.1 = name
      · cases kept : keep name <;> simp [insertEntry, same, kept]
      · cases here : keep entry.1 <;> cases kept : keep name <;>
          simp [insertEntry, same, here, kept, ih]

/-! ## Maps -/

namespace OrderedMap

theorem eq_of_entries {first second : OrderedMap Value} (same : first.entries = second.entries) :
    first = second := by
  cases first
  cases second
  simpa only [mk.injEq] using same

@[simp] theorem get?_empty (name : String) : (empty : OrderedMap Value).get? name = none := rfl

theorem get?_eq_some_iff_mem (map : OrderedMap Value) (name : String) (value : Value) :
    map.get? name = some value ↔ (name, value) ∈ map.entries :=
  lookup_eq_some_iff_mem map.distinct name value

theorem get?_insert (map : OrderedMap Value) (name sought : String) (value : Value) :
    (map.insert name value).get? sought =
      if sought = name then some value else map.get? sought :=
  lookup_insertEntry name sought value map.entries

theorem get?_filter (map : OrderedMap Value) (keep : String -> Bool) (name : String) :
    (map.filter keep).get? name = if keep name then map.get? name else none := by
  unfold get? filter
  rw [lookup_filter map.distinct]
  cases map.entries.lookup name <;> simp [Option.filter]

/-- The last of the inserted entries counts, and what stood before only where no
entry has the name. -/
theorem get?_insertAll (map : OrderedMap Value) (entries : List (String × Value))
    (name : String) :
    (map.insertAll entries).get? name = (entries.reverse.lookup name).or (map.get? name) := by
  induction entries generalizing map with
  | nil => simp [insertAll]
  | cons entry rest ih =>
      have step : map.insertAll (entry :: rest) = (map.insert entry.1 entry.2).insertAll rest := rfl
      rw [step, ih, get?_insert, List.reverse_cons, List.lookup_append, Option.or_assoc,
        lookup_cons_eq_ite]
      by_cases same : name = entry.1 <;>
        simp only [same, if_true, if_false, List.lookup_nil, Option.some_or, Option.none_or]

theorem get?_ofList (entries : List (String × Value)) (name : String) :
    (ofList entries).get? name = entries.reverse.lookup name := by
  rw [ofList, get?_insertAll, get?_empty, Option.or_none]

/-! ## Maps from lists -/

theorem insertEntry_of_absent {name : String} {entries : List (String × Value)}
    (absent : name ∉ entries.map Prod.fst) (value : Value) :
    insertEntry name value entries = entries ++ [(name, value)] := by
  induction entries with
  | nil => rfl
  | cons entry rest ih =>
      rw [List.map_cons, List.mem_cons, not_or] at absent
      rw [insertEntry, if_neg (Ne.symm absent.1), ih absent.2, List.cons_append]

theorem entries_insertAll_of_distinct {entries : List (String × Value)} {map : OrderedMap Value}
    (distinct : ((map.entries ++ entries).map Prod.fst).Nodup) :
    (map.insertAll entries).entries = map.entries ++ entries := by
  induction entries generalizing map with
  | nil => exact (List.append_nil _).symm
  | cons entry rest ih =>
      have absent : entry.1 ∉ map.entries.map Prod.fst := by
        rw [List.map_append, List.map_cons, List.nodup_append] at distinct
        exact fun member => distinct.2.2 _ member _ List.mem_cons_self rfl
      have inserted : (map.insert entry.1 entry.2).entries = map.entries ++ [entry] :=
        insertEntry_of_absent absent entry.2
      rw [List.append_cons, ← inserted] at distinct ⊢
      exact ih distinct

/-- A list in which no name repeats is the list of entries of its map. -/
theorem entries_ofList_of_distinct {entries : List (String × Value)}
    (distinct : (entries.map Prod.fst).Nodup) : (ofList entries).entries = entries :=
  entries_insertAll_of_distinct distinct

theorem ofList_entries (map : OrderedMap Value) : ofList map.entries = map :=
  eq_of_entries (entries_ofList_of_distinct map.distinct)

/-- The names of a map and their order depend on the names it is made from. -/
theorem names_insertAll_congr {Other : Type} {entries : List (String × Value)}
    {others : List (String × Other)} {map : OrderedMap Value} {otherMap : OrderedMap Other}
    (same : entries.map Prod.fst = others.map Prod.fst)
    (before : map.entries.map Prod.fst = otherMap.entries.map Prod.fst) :
    (map.insertAll entries).entries.map Prod.fst =
      (otherMap.insertAll others).entries.map Prod.fst := by
  induction entries generalizing others map otherMap with
  | nil =>
      rw [List.map_nil, eq_comm, List.map_eq_nil_iff] at same
      rw [same]
      exact before
  | cons entry rest ih =>
      cases others with
      | nil => cases same
      | cons other otherRest =>
          rw [List.map_cons, List.map_cons, List.cons.injEq] at same
          apply ih same.2
          change (insertEntry entry.1 entry.2 map.entries).map Prod.fst =
            (insertEntry other.1 other.2 otherMap.entries).map Prod.fst
          rw [names_insertEntry, names_insertEntry, before, same.1]

theorem mem_of_mem_ofList {entries : List (String × Value)} {entry : String × Value}
    (member : entry ∈ (ofList entries).entries) : entry ∈ entries := by
  have found := (get?_eq_some_iff_mem _ entry.1 entry.2).mpr member
  rw [get?_ofList] at found
  exact List.mem_reverse.mp (mem_of_lookup found)

/-! ## Filters -/

theorem entries_filter (map : OrderedMap Value) (keep : String -> Bool) :
    (map.filter keep).entries = map.entries.filter fun entry => keep entry.1 := rfl

theorem filter_insert (map : OrderedMap Value) (keep : String -> Bool) (name : String)
    (value : Value) :
    (map.insert name value).filter keep =
      if keep name then (map.filter keep).insert name value else map.filter keep := by
  apply eq_of_entries
  have entries := filter_insertEntry keep name value map.entries
  split at entries <;> rename_i kept
  · rw [if_pos kept]
    exact entries
  · rw [if_neg kept]
    exact entries

theorem filter_insertAll (keep : String -> Bool) (entries : List (String × Value))
    (map : OrderedMap Value) :
    (map.insertAll entries).filter keep =
      (map.filter keep).insertAll (entries.filter fun entry => keep entry.1) := by
  induction entries generalizing map with
  | nil => rfl
  | cons entry rest ih =>
      have step : map.insertAll (entry :: rest) = (map.insert entry.1 entry.2).insertAll rest := rfl
      rw [step, ih, filter_insert, List.filter_cons]
      split
      · rfl
      · rfl

/-- Filtering a map made from a list filters the list, in places and values. -/
theorem filter_ofList (keep : String -> Bool) (entries : List (String × Value)) :
    (ofList entries).filter keep = ofList (entries.filter fun entry => keep entry.1) :=
  filter_insertAll keep entries empty

theorem filter_filter (map : OrderedMap Value) (keep : String -> Bool) :
    (map.filter keep).filter keep = map.filter keep := by
  apply eq_of_entries
  simp only [filter, List.filter_filter, Bool.and_self]

theorem contains_filter (map : OrderedMap Value) (keep : String -> Bool) (name : String) :
    (map.filter keep).contains name = (keep name && map.contains name) := by
  rw [contains, contains, get?_filter]
  cases keep name <;> rfl

end OrderedMap
end SceneMarkup

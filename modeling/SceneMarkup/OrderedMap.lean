namespace SceneMarkup

/-!
# Maps in insertion order

A map from names to values that remembers the order in which names were first
inserted.  Replacing the value of a name keeps its place.  No name occurs twice,
and the type carries that fact, so a map and its list of entries determine each
other.
-/

/-- Put a value under a name: in place when the name occurs, at the end
otherwise. -/
def insertEntry (name : String) (value : Value) :
    List (String × Value) -> List (String × Value)
  | [] => [(name, value)]
  | entry :: rest =>
      if entry.1 = name then (name, value) :: rest
      else entry :: insertEntry name value rest

/-- The names after an insertion are the old ones, with a new name at the end. -/
theorem names_insertEntry (name : String) (value : Value)
    (entries : List (String × Value)) :
    (insertEntry name value entries).map Prod.fst =
      if name ∈ entries.map Prod.fst then entries.map Prod.fst
      else entries.map Prod.fst ++ [name] := by
  induction entries with
  | nil => simp [insertEntry]
  | cons entry rest ih =>
      by_cases same : entry.1 = name
      · simp [insertEntry, same]
      · have other : ¬ name = entry.1 := fun equal => same equal.symm
        simp only [insertEntry, if_neg same, List.map_cons, ih, List.mem_cons, other, false_or]
        split <;> simp

theorem nodup_insertEntry (name : String) (value : Value)
    {entries : List (String × Value)} (distinct : (entries.map Prod.fst).Nodup) :
    ((insertEntry name value entries).map Prod.fst).Nodup := by
  rw [names_insertEntry]
  split
  · exact distinct
  · rename_i absent
    rw [List.nodup_append]
    refine ⟨distinct, by simp, ?_⟩
    intro first member second new equal
    rw [List.mem_singleton] at new
    exact absent (new ▸ equal ▸ member)

/-- A map whose entries stand in the order of first insertion. -/
structure OrderedMap (Value : Type) where
  entries : List (String × Value)
  distinct : (entries.map Prod.fst).Nodup

namespace OrderedMap

/-- The map without entries. -/
def empty : OrderedMap Value :=
  ⟨[], List.nodup_nil⟩

instance : Inhabited (OrderedMap Value) := ⟨empty⟩

instance [BEq Value] : BEq (OrderedMap Value) where
  beq left right := left.entries == right.entries

instance [Repr Value] : Repr (OrderedMap Value) where
  reprPrec map precedence := reprPrec map.entries precedence

/-- Put a value under a name; a name that occurs keeps its place. -/
def insert (map : OrderedMap Value) (name : String) (value : Value) : OrderedMap Value :=
  ⟨insertEntry name value map.entries, nodup_insertEntry name value map.distinct⟩

/-- Insert a list of entries from left to right, so a later value wins and an
earlier place stays. -/
def insertAll (map : OrderedMap Value) (entries : List (String × Value)) : OrderedMap Value :=
  entries.foldl (fun result entry => result.insert entry.1 entry.2) map

def ofList (entries : List (String × Value)) : OrderedMap Value :=
  empty.insertAll entries

/-- The value under a name. -/
def get? (map : OrderedMap Value) (name : String) : Option Value :=
  map.entries.lookup name

/-- Whether a name occurs. -/
def contains (map : OrderedMap Value) (name : String) : Bool :=
  (map.get? name).isSome

/-- Whether the map has no entries. -/
def isEmpty (map : OrderedMap Value) : Bool :=
  map.entries.isEmpty

/-- The entries whose name passes a test, in order. -/
def filter (map : OrderedMap Value) (keep : String -> Bool) : OrderedMap Value where
  entries := map.entries.filter fun entry => keep entry.1
  distinct := List.Nodup.sublist (List.filter_sublist.map Prod.fst) map.distinct

end OrderedMap
end SceneMarkup

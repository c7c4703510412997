import Mathlib.Data.List.Forall2
import SceneMarkup.Data.Field
import SceneMarkup.Proofs.Json.Sorted

namespace SceneMarkup
namespace Json

/-!
# Reading back what was written

A value that was read from data and written again is read as the same value.  The
data need not be the same: fields that nobody knows are gone, defaults are spelled
out, and a name with a synonym has become the main one.  What is stable is the value.

Data comes in two forms.  A text is read as it stands, and so its objects keep their
order; or its objects are sorted first.  A decoder does not know which form it is
given, and neither do the proofs: they are about any form that keeps values and looks
into objects by name.  The order of an object matters only where the object is a map,
and there a form must leave a map alone that it has shown before.
-/

/-! ## Forms of data -/

/-- An object is shown with other entries in the place of its own: no name is lost,
and under each name stands the form of its value. -/
structure Shows (form : Json -> Json) (entries shown : List (String × Json)) : Prop where
  object : form (.object entries) = .object shown
  values : forall entry, entry ∈ shown -> Exists fun value => entry.2 = form value
  distinct : (entries.map Prod.fst).Nodup -> (shown.map Prod.fst).Nodup
  lookup : (entries.map Prod.fst).Nodup -> forall name,
    shown.lookup name = (entries.lookup name).map form

/-- A form in which data is read. -/
structure IsForm (form : Json -> Json) : Prop where
  null : form .null = .null
  bool : forall value, form (.bool value) = .bool value
  number : forall value, form (.number value) = .number value
  string : forall text, form (.string text) = .string text
  array : forall items, form (.array items) = .array (items.map form)
  object : forall entries, Exists fun shown => Shows form entries shown
  map : forall entries shown others, form (.object entries) = .object shown ->
    others.map Prod.fst = (OrderedMap.ofList shown).entries.map Prod.fst ->
      form (.object others) = .object (others.map fun entry => (entry.1, form entry.2))

/-- Data may be read as it stands. -/
theorem isForm_id : IsForm id where
  null := rfl
  bool _ := rfl
  number _ := rfl
  string _ := rfl
  array items := by rw [List.map_id]; rfl
  object entries := by
    refine ⟨entries, rfl, fun entry _ => ⟨entry.2, rfl⟩, fun distinct => distinct, ?_⟩
    intro _ name
    rw [Option.map_id]
    rfl
  map _ _ others _ _ := by
    have same : (others.map fun entry => (entry.1, id entry.2)) = others := List.map_id _
    rw [same]
    rfl

theorem map_fst_map_values {Value Other : Type} (entries : List (String × Value))
    (rewrite : Value -> Other) :
    (entries.map fun entry => (entry.1, rewrite entry.2)).map Prod.fst =
      entries.map Prod.fst := by
  rw [List.map_map]
  rfl

theorem sorted_object (entries : List (String × Json)) :
    sorted (.object entries) =
      .object (insertAllSorted (entries.map fun entry => (entry.1, sorted entry.2)) []) := by
  rw [sorted, sortedEntries_eq]
  rfl

/-- Data may be sorted before it is read. -/
theorem isForm_sorted : IsForm sorted where
  null := rfl
  bool _ := rfl
  number _ := rfl
  string _ := rfl
  array items := by rw [sorted, sortedItems_eq]
  object entries := by
    have ascending : Ascending (insertAllSorted
        (entries.map fun entry => (entry.1, sorted entry.2)) []) :=
      ascending_insertAllSorted List.Pairwise.nil
    refine ⟨_, sorted_object entries, ?_, fun _ => ascending.distinct, ?_⟩
    · intro entry member
      rcases mem_insertAllSorted member with listed | impossible
      · rcases List.mem_map.mp listed with ⟨original, _, same⟩
        exact ⟨original.2, same ▸ rfl⟩
      · cases impossible
    · intro distinct name
      rw [← map_fst_map_values entries sorted] at distinct
      rw [lookup_insertAllSorted distinct, lookup_map_values, List.lookup_nil, Option.or_none]
  map entries shown others object names := by
    have same : shown = insertAllSorted _ [] :=
      Json.object.inj (object.symm.trans (sorted_object entries))
    have ascending : Ascending shown := same ▸ ascending_insertAllSorted List.Pairwise.nil
    rw [OrderedMap.entries_ofList_of_distinct ascending.distinct,
      ← map_fst_map_values others sorted] at names
    -- The map has been sorted before, so sorting it again moves no entry.
    rw [sorted_object]
    refine congrArg _ (insertAllSorted_of_ascending ?_)
    rw [List.nil_append]
    rw [Ascending, ← List.pairwise_map] at ascending ⊢
    exact names ▸ ascending

/-! ## Values that are read back -/

theorem mapM_eq_some_iff (work : Item -> Option Value) (items : List Item)
    (results : List Value) :
    items.mapM work = some results ↔
      List.Forall₂ (fun item value => work item = some value) items results := by
  induction items generalizing results with
  | nil =>
      rw [List.mapM_nil, List.forall₂_nil_left_iff]
      exact Option.some_inj.trans eq_comm
  | cons item rest ih =>
      rw [List.mapM_cons, List.forall₂_cons_left_iff]
      simp only [Option.bind_eq_bind, Option.bind_eq_some_iff, Option.pure_def,
        Option.some_inj, ih]
      constructor
      · rintro ⟨value, done, others, remaining, whole⟩
        exact ⟨value, others, done, remaining, whole.symm⟩
      · rintro ⟨value, others, done, remaining, whole⟩
        exact ⟨value, done, others, remaining, whole.symm⟩

theorem exists_of_forall₂ {Related : Item -> Value -> Prop} {items : List Item}
    {results : List Value} (related : List.Forall₂ Related items results) {result : Value}
    (member : result ∈ results) : Exists fun item => item ∈ items ∧ Related item result := by
  induction related with
  | nil => cases member
  | cons first _ ih =>
      rcases List.mem_cons.mp member with here | later
      · exact ⟨_, List.mem_cons_self, here ▸ first⟩
      · rcases ih later with ⟨item, listed, found⟩
        exact ⟨item, List.mem_cons_of_mem _ listed, found⟩

/-- A map that was read has the names of the entries shown, and values that were read. -/
theorem names_of_asMap? {decode : Json -> Option Value} {shown : List (String × Json)}
    {map : OrderedMap Value} (decoded : asMap? decode (.object shown) = some map) :
    map.entries.map Prod.fst = (OrderedMap.ofList shown).entries.map Prod.fst ∧
    forall pair, pair ∈ map.entries ->
      Exists fun entry => entry ∈ shown ∧ decode entry.2 = some pair.2 := by
  rcases Option.map_eq_some_iff.mp decoded with ⟨pairs, read, made⟩
  rw [mapM_eq_some_iff] at read
  have entry : List.Forall₂ (fun item pair => item.1 = pair.1 ∧ decode item.2 = some pair.2)
      shown pairs := by
    refine read.imp fun item pair found => ?_
    rcases Option.map_eq_some_iff.mp found with ⟨value, done, made⟩
    rw [← made]
    exact ⟨rfl, done⟩
  have names : shown.map Prod.fst = pairs.map Prod.fst := by
    rw [← List.forall₂_eq_eq_eq, List.forall₂_map_left_iff, List.forall₂_map_right_iff]
    exact entry.imp fun _ _ => And.left
  subst made
  refine ⟨(OrderedMap.names_insertAll_congr names rfl).symm, fun pair member => ?_⟩
  -- Of a repeated name the map has one value, but that value too was read.
  rcases exists_of_forall₂ entry (OrderedMap.mem_of_mem_ofList member) with
    ⟨item, listed, _, done⟩
  exact ⟨item, listed, done⟩

/-- What is written for a value is read as the value.  It is never `null`, which
would leave a field open. -/
structure Settles (form : Json -> Json) (decode : Json -> Option Value) (encode : Value -> Json)
    (value : Value) : Prop where
  read : decode (form (encode value)) = some value
  notNull : form (encode value) ≠ .null

/-- Every value that is read settles. -/
def Steady (form : Json -> Json) (decode : Json -> Option Value) (encode : Value -> Json) : Prop :=
  forall json value, decode (form json) = some value -> Settles form decode encode value

namespace IsForm

variable {form : Json -> Json} (isForm : IsForm form)

include isForm

theorem string_settles (text : String) : Settles form asString? .string text where
  read := by rw [isForm.string]; rfl
  notNull := by rw [isForm.string]; exact Json.noConfusion

theorem choice_settles (name : String) : Settles form asChoice? .string name where
  read := by rw [isForm.string]; rfl
  notNull := by rw [isForm.string]; exact Json.noConfusion

theorem bool_settles (value : Bool) : Settles form asBool? .bool value where
  read := by rw [isForm.bool]; rfl
  notNull := by rw [isForm.bool]; exact Json.noConfusion

theorem float_settles (value : Float) : Settles form asFloat? ofFloat value where
  read := by rw [ofFloat, isForm.number]; rfl
  notNull := by rw [ofFloat, isForm.number]; exact Json.noConfusion

theorem count_steady : Steady form asCount? ofNat := by
  intro json count decoded
  have small : count < 4294967296 := by
    unfold asCount? at decoded
    split at decoded
    · split at decoded
      · rename_i value _ fits
        have same : value.toNat = count := Option.some.inj decoded
        omega
      · cases decoded
    · cases decoded
  have fits : 0 <= Int.ofNat count ∧ Int.ofNat count < 4294967296 :=
    ⟨Int.natCast_nonneg count, Int.ofNat_lt.mpr small⟩
  refine ⟨?_, by rw [ofNat, isForm.number]; exact Json.noConfusion⟩
  rw [ofNat, isForm.number]
  unfold asCount?
  dsimp only
  rw [if_pos fits]
  rfl

/-! ### Lists and maps -/

/-- What shows as an array is an array. -/
theorem exists_items {json : Json} {shown : List Json} (array : form json = .array shown) :
    Exists fun items : List Json => shown = items.map form := by
  cases json with
  | array items => exact ⟨items, Json.array.inj (array.symm.trans (isForm.array items))⟩
  | object entries =>
      rcases isForm.object entries with ⟨others, shows⟩
      cases array.symm.trans shows.object
  | null => cases array.symm.trans isForm.null
  | bool value => cases array.symm.trans (isForm.bool value)
  | number value => cases array.symm.trans (isForm.number value)
  | string text => cases array.symm.trans (isForm.string text)

/-- What shows as an object is an object. -/
theorem exists_entries {json : Json} {shown : List (String × Json)}
    (object : form json = .object shown) :
    Exists fun entries => json = .object entries ∧ Shows form entries shown := by
  cases json with
  | object entries =>
      rcases isForm.object entries with ⟨others, shows⟩
      have same := Json.object.inj (object.symm.trans shows.object)
      exact ⟨entries, rfl, same ▸ shows⟩
  | array items => cases object.symm.trans (isForm.array items)
  | null => cases object.symm.trans isForm.null
  | bool value => cases object.symm.trans (isForm.bool value)
  | number value => cases object.symm.trans (isForm.number value)
  | string text => cases object.symm.trans (isForm.string text)

variable {decode : Json -> Option Value} {encode : Value -> Json}

theorem list_settles {values : List Value}
    (each : forall value, value ∈ values -> Settles form decode encode value) :
    Settles form (asList? decode) (ofList encode) values where
  read := by
    rw [ofList, isForm.array, asList?, List.map_map, mapM_eq_some_iff, List.forall₂_map_left_iff,
      List.forall₂_same]
    exact fun value member => (each value member).read
  notNull := by rw [ofList, isForm.array]; exact Json.noConfusion

theorem exists_of_mem_list {json : Json} {values : List Value}
    (decoded : asList? decode (form json) = some values) {value : Value}
    (member : value ∈ values) : Exists fun item => decode (form item) = some value := by
  unfold asList? at decoded
  split at decoded
  · rename_i shown array
    rcases isForm.exists_items array with ⟨items, same⟩
    rw [same, mapM_eq_some_iff] at decoded
    rcases exists_of_forall₂ decoded member with ⟨formed, listed, read⟩
    rcases List.mem_map.mp listed with ⟨item, _, formedItem⟩
    exact ⟨item, formedItem ▸ read⟩
  · cases decoded

theorem list_steady (steady : Steady form decode encode) :
    Steady form (asList? decode) (ofList encode) := by
  intro json values decoded
  apply isForm.list_settles
  intro value member
  rcases isForm.exists_of_mem_list decoded member with ⟨item, read⟩
  exact steady item value read

theorem empty_settles (decode : Json -> Option Value) (encode : Value -> Json) :
    Settles form (asMap? decode) (ofMap encode) OrderedMap.empty := by
  have shown : form (.object []) = .object [] := by
    rcases isForm.object [] with ⟨shown, shows⟩
    cases shown with
    | nil => exact shows.object
    | cons entry rest =>
        have found := shows.lookup List.nodup_nil entry.1
        rw [lookup_cons_eq_ite, if_pos rfl] at found
        cases found
  constructor
  · change asMap? decode (form (.object [])) = _
    rw [shown]
    rfl
  · change form (.object []) ≠ .null
    rw [shown]
    exact Json.noConfusion

/-- A map whose values were all read settles if its names are those of a map that has
been shown before. -/
theorem map_settles {entries shown : List (String × Json)} {map : OrderedMap Value}
    (object : form (.object entries) = .object shown)
    (names : map.entries.map Prod.fst = (OrderedMap.ofList shown).entries.map Prod.fst)
    (each : forall pair, pair ∈ map.entries -> Settles form decode encode pair.2) :
    Settles form (asMap? decode) (ofMap encode) map := by
  let written := map.entries.map fun pair => (pair.1, encode pair.2)
  have writtenNames : written.map Prod.fst = (OrderedMap.ofList shown).entries.map Prod.fst := by
    rw [map_fst_map_values, names]
  have kept := isForm.map entries shown written object writtenNames
  have again : (written.map fun pair => (pair.1, form pair.2)).mapM
      (fun pair => (decode pair.2).map fun value => (pair.1, value)) = some map.entries := by
    rw [mapM_eq_some_iff, List.forall₂_map_left_iff, List.forall₂_map_left_iff,
      List.forall₂_same]
    intro pair member
    rw [(each pair member).read]
    rfl
  refine ⟨?_, by rw [ofMap, kept]; exact Json.noConfusion⟩
  rw [ofMap, kept, asMap?, again, Option.map_some, OrderedMap.ofList_entries]

theorem map_steady (steady : Steady form decode encode) :
    Steady form (asMap? decode) (ofMap encode) := by
  intro json map decoded
  unfold asMap? at decoded
  split at decoded
  · rename_i shown object
    rcases isForm.exists_entries object with ⟨entries, same, shows⟩
    rcases names_of_asMap? decoded with ⟨names, each⟩
    refine isForm.map_settles (same ▸ object) names fun pair member => ?_
    rcases each pair member with ⟨entry, listed, read⟩
    rcases shows.values entry listed with ⟨value, formed⟩
    exact steady value pair.2 (formed ▸ read)
  · cases decoded

end IsForm

/-! ## Fields -/

/-- Entries that are shown in a form. -/
def Formed (form : Json -> Json) (shown : List (String × Json)) : Prop :=
  forall entry, entry ∈ shown -> Exists fun value => entry.2 = form value

section Fields

variable {form : Json -> Json} {decode : Json -> Option Value} {encode : Value -> Json}
  {shown : List (String × Json)} {name : String}

namespace Formed

variable (formed : Formed form shown) (steady : Steady form decode encode)

include formed steady

theorem settles_of_lookup {json : Json} {value : Value} (found : shown.lookup name = some json)
    (read : decode json = some value) : Settles form decode encode value := by
  rcases formed (name, json) (mem_of_lookup found) with ⟨original, same⟩
  change json = form original at same
  exact steady original value (same ▸ read)

theorem settles_of_required? {value : Value} (read : required? shown name decode = some value) :
    Settles form decode encode value := by
  rcases Option.bind_eq_some_iff.mp read with ⟨json, found, done⟩
  exact formed.settles_of_lookup steady found done

theorem settles_of_defaulted? {default value : Value}
    (standard : Settles form decode encode default)
    (read : defaulted? shown name default decode = some value) :
    Settles form decode encode value := by
  unfold defaulted? at read
  split at read
  · exact Option.some.inj read ▸ standard
  · rename_i json found
    exact formed.settles_of_lookup steady found read

theorem settles_of_open? {value : Option Value} (read : open? shown name decode = some value) :
    forall given, given ∈ value -> Settles form decode encode given := by
  unfold open? at read
  intro given member
  split at read
  · rw [← Option.some.inj read] at member
    cases member
  · rw [← Option.some.inj read] at member
    cases member
  · rename_i json _ found
    rcases Option.map_eq_some_iff.mp read with ⟨own, done, same⟩
    rw [← same, Option.mem_some_iff] at member
    exact formed.settles_of_lookup steady found (member ▸ done)

end Formed

/-- A required field that was written is read. -/
theorem Settles.required?_eq {value : Value} (settles : Settles form decode encode value)
    (found : shown.lookup name = some (form (encode value))) :
    required? shown name decode = some value := by
  rw [required?, found]
  exact settles.read

/-- A field with a default that was written is read. -/
theorem Settles.defaulted?_eq {value : Value} (settles : Settles form decode encode value)
    (default : Value) (found : shown.lookup name = some (form (encode value))) :
    defaulted? shown name default decode = some value := by
  rw [defaulted?, found]
  exact settles.read

/-- An open field is read if it is left out when there is no value. -/
theorem open?_eq_of_map {value : Option Value}
    (settles : forall given, given ∈ value -> Settles form decode encode given)
    (found : shown.lookup name = value.map fun given => form (encode given)) :
    open? shown name decode = some value := by
  unfold open?
  rw [found]
  cases value with
  | none => rfl
  | some given =>
      have own := settles given rfl
      split
      · rename_i impossible
        cases impossible
      · rename_i isNull
        exact absurd (Option.some.inj isNull) own.notNull
      · rename_i json _ same
        rw [← Option.some.inj same, own.read]
        rfl

/-- An open field is read if it is `null` when there is no value. -/
theorem IsForm.open?_eq (isForm : IsForm form) {value : Option Value}
    (settles : forall given, given ∈ value -> Settles form decode encode given)
    (found : shown.lookup name = some (form (ofOption encode value))) :
    open? shown name decode = some value := by
  cases value with
  | none =>
      unfold open?
      rw [found, ofOption, isForm.null]
  | some given => exact open?_eq_of_map settles found

/-- What is written for a list that is left out when it is empty. -/
def skippedList (encode : Value -> Json) (values : List Value) : Option Json :=
  if values.isEmpty then none else some (ofList encode values)

/-- A list that is left out when it is empty is read. -/
theorem IsForm.defaulted?_eq_of_skipped (isForm : IsForm form) {values : List Value}
    (each : forall value, value ∈ values -> Settles form decode encode value)
    (found : shown.lookup name = (skippedList encode values).map form) :
    defaulted? shown name [] (asList? decode) = some values := by
  unfold defaulted?
  rw [found]
  cases values with
  | nil => rfl
  | cons first rest => exact (isForm.list_settles each).read

/-! ### Whole objects -/

theorem fields?_eq_of_distinct (known : List String) (distinct : (shown.map Prod.fst).Nodup) :
    fields? known (.object shown) = some shown := by
  rw [fields?, if_pos]
  rw [List.all_eq_true]
  intro name _
  have once := List.nodup_iff_count.mp distinct name
  rw [List.count, List.countP_map, List.countP_eq_length_filter] at once
  exact decide_eq_true once

/-- Names put beside the items of an array show entries. -/
theorem IsForm.formed_zip (isForm : IsForm form) {json : Json} {items : List Json}
    (array : form json = .array items) (names : List String) : Formed form (names.zip items) := by
  rcases isForm.exists_items array with ⟨originals, same⟩
  subst same
  intro entry member
  rcases List.mem_map.mp (List.of_mem_zip member).2 with ⟨original, _, formed⟩
  exact ⟨original, formed.symm⟩

/-- Data from which fields are read shows entries. -/
theorem IsForm.exists_fields (isForm : IsForm form) {json : Json} {known : List String}
    {next : List (String × Json) -> Option Value} {value : Value}
    (decoded : ((form json).fields? known).bind next = some value) :
    Exists fun shown => Formed form shown ∧ next shown = some value := by
  rcases Option.bind_eq_some_iff.mp decoded with ⟨shown, fields, read⟩
  refine ⟨shown, ?_, read⟩
  unfold fields? at fields
  split at fields
  · rename_i entries object
    split at fields
    · rcases isForm.exists_entries object with ⟨_, _, shows⟩
      exact Option.some.inj fields ▸ shows.values
    · cases fields
  · rename_i items array
    split at fields
    · exact Option.some.inj fields ▸ isForm.formed_zip array known
    · cases fields
  · cases fields

/-- A value that is written as an object settles if it is read from any entries in
which each name has what was written under it. -/
theorem IsForm.object_settles (isForm : IsForm form) {value : Value}
    {entries : List (String × Json)} {known : List String}
    {next : List (String × Json) -> Option Value}
    (decodes : forall json, decode json = (json.fields? known).bind next)
    (encodes : encode value = .object entries) (distinct : (entries.map Prod.fst).Nodup)
    (reads : forall shown,
      (forall name, shown.lookup name = (entries.lookup name).map form) ->
        next shown = some value) :
    Settles form decode encode value := by
  rcases isForm.object entries with ⟨shown, shows⟩
  refine ⟨?_, by rw [encodes, shows.object]; exact Json.noConfusion⟩
  rw [encodes, shows.object, decodes, fields?_eq_of_distinct known (shows.distinct distinct),
    Option.bind_some]
  exact reads shown (shows.lookup distinct)

end Fields
end Json
end SceneMarkup

import SceneMarkup.Proofs.Index.Depth
import SceneMarkup.Proofs.Index.Lookup

namespace SceneMarkup

/-!
# Where an id leads across files

Ids are unique within one file only, so an imported file may know an id in two
ways.  Its alias table may say which of its nodes the id means, and the file may
just hold a node that happens to have the id.

The main document is asked first, and then the files in order.  The search ends at
the first file that knows the id in either way; only there is the alias preferred.
An alias therefore wins over every node of its own file and of the files behind
it.  It loses to a node of a file in front of it, and the main result says that
this is the only way in which it can.
-/

namespace IndexedImport

/-- The file holds a node with an id. -/
def Holds (indexed : IndexedImport) (id : String) : Prop :=
  (indexed.named.document.find? id).isSome = true

instance (indexed : IndexedImport) (id : String) : Decidable (indexed.Holds id) :=
  inferInstanceAs (Decidable ((indexed.named.document.find? id).isSome = true))

/-- By the alias table of the file an id means another one, without its qualifier,
and the file holds the node meant. -/
def Means (indexed : IndexedImport) (id meant : String) : Prop :=
  indexed.aliases.get? (InstanceId.unqualified id) = some meant ∧ indexed.Holds meant

instance (indexed : IndexedImport) (id meant : String) : Decidable (indexed.Means id meant) :=
  inferInstanceAs (Decidable (_ ∧ _))

/-- The file has an alias for an id. -/
def HasAlias (indexed : IndexedImport) (id : String) : Prop :=
  Exists fun meant => indexed.Means id meant

/-- What an id comes to in the file: the id that it means, and where it means none
the id itself. -/
def LeadsTo (indexed : IndexedImport) (id target : String) : Prop :=
  indexed.Means id target ∨ (target = id ∧ indexed.Holds id ∧ ¬ indexed.HasAlias id)

/-- An id comes to something in the file. -/
def Knows (indexed : IndexedImport) (id : String) : Prop :=
  Exists fun target => indexed.LeadsTo id target

variable {indexed : IndexedImport} {id : String}

theorem Means.unique {meant other : String} (first : indexed.Means id meant)
    (second : indexed.Means id other) : meant = other :=
  Option.some.inj (first.1.symm.trans second.1)

theorem knows_iff : indexed.Knows id ↔ indexed.HasAlias id ∨ indexed.Holds id := by
  constructor
  · rintro ⟨target, means | ⟨_, holds, _⟩⟩
    · exact Or.inl ⟨target, means⟩
    · exact Or.inr holds
  · intro known
    by_cases aliased : indexed.HasAlias id
    · rcases aliased with ⟨meant, means⟩
      exact ⟨meant, Or.inl means⟩
    · exact ⟨id, Or.inr ⟨rfl, known.resolve_left aliased, aliased⟩⟩

/-- What an id comes to is a node of the file. -/
theorem LeadsTo.holds {target : String} (leads : indexed.LeadsTo id target) :
    indexed.Holds target := by
  rcases leads with means | ⟨same, holds, _⟩
  · exact means.2
  · rw [same]
    exact holds

end IndexedImport

namespace Scene

open IndexedImport

/-! ## One file -/

theorem resolveIn?_of_leadsTo {id target : String} {indexed : IndexedImport}
    (leads : indexed.LeadsTo id target) (place : Nat) :
    resolveIn? id place indexed = some ⟨.imported place, target⟩ := by
  rw [resolveIn?]
  rcases leads with ⟨aliased, holds⟩ | ⟨same, holds, noAlias⟩
  · rw [aliased]
    exact if_pos holds
  · have byId : (if (indexed.named.document.find? id).isSome = true then
        some (⟨.imported place, id⟩ : Resolution) else none) = some ⟨.imported place, id⟩ :=
      if_pos holds
    rw [same]
    cases aliased : indexed.aliases.get? (InstanceId.unqualified id) with
    | none => exact byId
    | some meant =>
        -- An alias for a node that the file does not hold is none.
        have missing : ¬ (indexed.named.document.find? meant).isSome = true :=
          fun found => noAlias ⟨meant, aliased, found⟩
        exact (if_neg missing).trans byId

theorem resolveIn?_of_not_knows {id : String} {indexed : IndexedImport}
    (unknown : ¬ indexed.Knows id) (place : Nat) : resolveIn? id place indexed = none := by
  rw [knows_iff, not_or] at unknown
  rw [resolveIn?]
  cases aliased : indexed.aliases.get? (InstanceId.unqualified id) with
  | none => exact if_neg unknown.2
  | some meant =>
      have missing : ¬ (indexed.named.document.find? meant).isSome = true :=
        fun found => unknown.1 ⟨meant, aliased, found⟩
      exact (if_neg missing).trans (if_neg unknown.2)

/-! ## Files in order -/

/-- The files in front of the one that knows an id are passed over. -/
theorem resolveFrom?_of_leadsTo {id target : String} {indexed : IndexedImport}
    (leads : indexed.LeadsTo id target) {files : List IndexedImport} :
    forall {place start : Nat}, files[place]? = some indexed ->
      (forall earlier other, earlier < place -> files[earlier]? = some other ->
        ¬ other.Knows id) ->
      resolveFrom? id start files = some ⟨.imported (start + place), target⟩ := by
  induction files with
  | nil =>
      intro place start listed
      cases listed
  | cons file rest ih =>
      intro place start listed unknown
      rw [resolveFrom?]
      cases place with
      | zero =>
          rw [Option.some.inj listed, resolveIn?_of_leadsTo leads]
          rfl
      | succ place =>
          rw [resolveIn?_of_not_knows (unknown 0 file (Nat.succ_pos place) rfl)]
          dsimp only
          rw [ih listed fun earlier other before found =>
            unknown (earlier + 1) other (Nat.succ_lt_succ before) found, Nat.add_right_comm,
            Nat.add_assoc]

theorem resolveFrom?_of_not_knows {id : String} {files : List IndexedImport}
    (unknown : forall file, file ∈ files -> ¬ file.Knows id) (start : Nat) :
    resolveFrom? id start files = none := by
  induction files generalizing start with
  | nil => rfl
  | cons file rest ih =>
      rw [List.forall_mem_cons] at unknown
      rw [resolveFrom?, resolveIn?_of_not_knows unknown.1]
      exact ih unknown.2 (start + 1)

variable {scene : Scene} {id : String}

/-- An imported file is the first of a kind. -/
structure IsFirstImport (scene : Scene) (Kind : IndexedImport -> Prop) (place : Nat)
    (indexed : IndexedImport) : Prop where
  listed : scene.imports[place]? = some indexed
  kind : Kind indexed
  first : forall earlier other, earlier < place -> scene.imports[earlier]? = some other ->
    ¬ Kind other

theorem exists_isFirstImport (Kind : IndexedImport -> Prop) {place : Nat}
    {indexed : IndexedImport} (listed : scene.imports[place]? = some indexed)
    (kind : Kind indexed) :
    Exists fun least => Exists fun file => least <= place ∧ scene.IsFirstImport Kind least file := by
  induction place using Nat.strongRecOn generalizing indexed with
  | ind place ih =>
      by_cases earlier : Exists fun before => Exists fun other => before < place ∧
          scene.imports[before]? = some other ∧ Kind other
      · rcases earlier with ⟨before, other, lower, found, otherKind⟩
        rcases ih before lower found otherKind with ⟨least, file, bound, isFirst⟩
        exact ⟨least, file, by omega, isFirst⟩
      · refine ⟨place, indexed, Nat.le_refl _, listed, kind, ?_⟩
        intro before other lower found otherKind
        exact earlier ⟨before, other, lower, found, otherKind⟩

theorem IsFirstImport.place_eq {Kind : IndexedImport -> Prop} {place other : Nat}
    {indexed otherIndexed : IndexedImport} (isFirst : scene.IsFirstImport Kind place indexed)
    (otherFirst : scene.IsFirstImport Kind other otherIndexed) : place = other := by
  rcases Nat.lt_trichotomy place other with before | same | behind
  · exact absurd isFirst.kind (otherFirst.first place indexed before isFirst.listed)
  · exact same
  · exact absurd otherFirst.kind (isFirst.first other otherIndexed behind otherFirst.listed)

theorem resolve_of_main (held : ((scene.document .main).find? id).isSome = true) :
    scene.resolve id = ⟨.main, id⟩ := by
  rw [resolve, if_pos held]

/-- An id that the main document does not hold leads to the first file that knows
it. -/
theorem resolve_of_isFirstImport (absent : (scene.document .main).find? id = none) {place : Nat}
    {indexed : IndexedImport} {target : String}
    (isFirst : scene.IsFirstImport (·.Knows id) place indexed)
    (leads : indexed.LeadsTo id target) : scene.resolve id = ⟨.imported place, target⟩ := by
  rw [resolve, absent, if_neg (by decide), resolveFrom?_of_leadsTo leads isFirst.listed isFirst.first,
    Nat.zero_add]
  rfl

theorem resolve_of_not_knows (absent : (scene.document .main).find? id = none)
    (unknown : forall file, file ∈ scene.imports -> ¬ file.Knows id) :
    scene.resolve id = ⟨.main, id⟩ := by
  rw [resolve, absent, if_neg (by decide), resolveFrom?_of_not_knows unknown]
  rfl

/-! ## Aliases and coincidences -/

/-- Where the main document does not hold an id and some file has an alias for it,
the id leads to what it means in the first such file, exactly if no file in front
of that one holds a node with the id.  Otherwise it leads to such a node, in the
first file that holds one. -/
theorem resolve_of_hasAlias (absent : (scene.document .main).find? id = none)
    (aliased : Exists fun file => file ∈ scene.imports ∧ file.HasAlias id) :
    Exists fun place => Exists fun indexed => Exists fun meant =>
      scene.IsFirstImport (·.HasAlias id) place indexed ∧ indexed.Means id meant ∧
      (scene.resolve id = ⟨.imported place, meant⟩ ↔
        forall earlier other, earlier < place -> scene.imports[earlier]? = some other ->
          ¬ other.Holds id) ∧
      (forall earlier other, earlier < place ->
        scene.IsFirstImport (·.Holds id) earlier other ->
          scene.resolve id = ⟨.imported earlier, id⟩) := by
  rcases aliased with ⟨file, member, hasAlias⟩
  rcases List.getElem?_of_mem member with ⟨somewhere, found⟩
  rcases exists_isFirstImport (·.HasAlias id) found hasAlias with
    ⟨place, indexed, _, isFirst⟩
  rcases isFirst.kind with ⟨meant, means⟩
  have noAlias := isFirst.first
  refine ⟨place, indexed, meant, isFirst, means, ⟨?_, ?_⟩, ?_⟩
  · -- A file in front that holds the id would end the search before the alias does.
    intro resolved earlier other before listed holds
    rcases exists_isFirstImport (·.Knows id) listed (knows_iff.mpr (Or.inr holds)) with
      ⟨least, known, bound, isLeast⟩
    rcases isLeast.kind with ⟨target, leads⟩
    have elsewhere := resolve_of_isFirstImport absent isLeast leads
    rw [resolved, Resolution.mk.injEq, FileRef.imported.injEq] at elsewhere
    omega
  · intro free
    refine resolve_of_isFirstImport absent ⟨isFirst.listed, ⟨meant, Or.inl means⟩, ?_⟩
      (Or.inl means)
    intro earlier other before listed
    rw [knows_iff, not_or]
    exact ⟨noAlias earlier other before listed, free earlier other before listed⟩
  · intro earlier other before holder
    have leads : other.LeadsTo id id :=
      Or.inr ⟨rfl, holder.kind, noAlias earlier other before holder.listed⟩
    refine resolve_of_isFirstImport absent ⟨holder.listed, ⟨id, leads⟩, ?_⟩ leads
    intro further another ahead listed
    rw [knows_iff, not_or]
    exact ⟨noAlias further another (Nat.lt_trans ahead before) listed,
      holder.first further another ahead listed⟩

/-- A library of buttons with the ids given, which others know by aliases. -/
def buttonLibraryOf (aliases : List (String × String)) (ids : List String) : ImportedFile :=
  ⟨OrderedMap.ofList aliases, .container "0:0" "Document" .document
    (ids.map fun id => .container id "Button" (.component false .blank) [])⟩

/-- A document that imports two libraries. -/
def importingTwo (first second : ImportedFile) : Scene :=
  ofTrees (.container "0:0" "Document" .document [])
    (OrderedMap.ofList [("lib/first.pc", first), ("lib/second.pc", second)])

/-- An alias wins over a node with the id in its own file and in the file behind. -/
theorem alias_wins_over_later_button :
    (importingTwo (buttonLibraryOf [("5:5", "9:9")] ["5:5", "9:9"])
      (buttonLibraryOf [] ["5:5"])).resolve "5:5" = ⟨.imported 0, "9:9"⟩ := by
  let library := indexedFile ("lib/first.pc", buttonLibraryOf [("5:5", "9:9")] ["5:5", "9:9"])
  let scene := importingTwo (buttonLibraryOf [("5:5", "9:9")] ["5:5", "9:9"])
    (buttonLibraryOf [] ["5:5"])
  have absent : (scene.document .main).find? "5:5" = none := by decide +kernel
  have means : library.Means "5:5" "9:9" := by decide +kernel
  have atFront : scene.IsFirstImport (·.HasAlias "5:5") 0 library :=
    ⟨rfl, ⟨"9:9", means⟩, fun _ _ before => absurd before (Nat.not_lt_zero _)⟩
  rcases resolve_of_hasAlias absent ⟨library, List.mem_cons_self, "9:9", means⟩ with
    ⟨place, indexed, meant, isFirst, meansToo, exactly, _⟩
  have same := isFirst.place_eq atFront
  subst same
  rw [Option.some.inj (isFirst.listed.symm.trans atFront.listed)] at meansToo
  rw [← means.unique meansToo] at exactly
  exact exactly.mpr fun _ _ before => absurd before (Nat.not_lt_zero _)

/-- An alias is not always followed: a button with the id in a file in front is
found first. -/
theorem alias_loses_to_earlier_button :
    ¬ forall (scene : Scene) (id : String) (place : Nat) (indexed : IndexedImport)
      (meant : String), (scene.document .main).find? id = none ->
        scene.IsFirstImport (·.HasAlias id) place indexed -> indexed.Means id meant ->
          scene.resolve id = ⟨.imported place, meant⟩ := by
  intro always
  let front := buttonLibraryOf [] ["5:5"]
  let library := buttonLibraryOf [("5:5", "9:9")] ["9:9"]
  have absent : ((importingTwo front library).document .main).find? "5:5" = none := by
    decide +kernel
  have means : (indexedFile ("lib/second.pc", library)).Means "5:5" "9:9" := by decide +kernel
  have isFirst : (importingTwo front library).IsFirstImport (·.HasAlias "5:5") 1
      (indexedFile ("lib/second.pc", library)) := by
    refine ⟨rfl, ⟨"9:9", means⟩, ?_⟩
    rintro earlier other before listed ⟨meant, aliased, _⟩
    rw [Nat.lt_one_iff.mp before] at listed
    rw [← Option.some.inj listed] at aliased
    cases aliased
  have found : (importingTwo front library).resolve "5:5" = ⟨.imported 0, "5:5"⟩ := by
    decide +kernel
  rw [always _ "5:5" 1 _ "9:9" absent isFirst means] at found
  exact absurd found (by decide)

end Scene
end SceneMarkup

import SceneMarkup.Proofs.Naming.Names

namespace SceneMarkup

/-!
# The characters of class names

A class stands in stylesheets between dots, blanks and commas, so none of these
may occur in it, whatever the id and the name of its node contain.  Everything in
a class is a letter, a digit, a hyphen or an underscore: ids are encoded, and
names are joined from identifiers.
-/

/-! ## Letters of a class -/

/-- A character that may stand in a class. -/
def IsClassChar (char : Char) : Prop :=
  char.isAlphanum = true ∨ char = '-' ∨ char = '_'

instance (char : Char) : Decidable (IsClassChar char) :=
  inferInstanceAs (Decidable (char.isAlphanum = true ∨ char = '-' ∨ char = '_'))

/-- A text of such characters. -/
def IsClassText (text : List Char) : Prop :=
  forall char, char ∈ text -> IsClassChar char

theorem IsClassText.append {first second : List Char} (firstText : IsClassText first)
    (secondText : IsClassText second) : IsClassText (first ++ second) := by
  intro char member
  rcases List.mem_append.mp member with before | behind
  · exact firstText char before
  · exact secondText char behind

theorem IsClassText.underscore : IsClassText ['_'] := by
  intro char member
  rw [List.mem_singleton.mp member]
  exact Or.inr (Or.inr rfl)

theorem IsClassText.not_mem {text : List Char} (plain : IsClassText text) {char : Char}
    (foreign : ¬ IsClassChar char) : char ∉ text :=
  fun member => foreign (plain char member)

/-- No character that separates classes occurs in one. -/
theorem IsClassText.bne {text : List Char} (plain : IsClassText text) {separator : Char}
    (foreign : ¬ IsClassChar separator) (char : Char) (member : char ∈ text) :
    (char != separator) = true := by
  rw [bne_iff_ne]
  intro same
  rw [same] at member
  exact foreign (plain separator member)

/-- Two texts agree up to the first character that is not kept, and from there
on. -/
theorem append_inj_of_takeWhile {keep : Char -> Bool}
    {first second firstRest secondRest : List Char}
    (firstKept : forall char, char ∈ first -> keep char = true)
    (secondKept : forall char, char ∈ second -> keep char = true)
    (firstStops : firstRest.takeWhile keep = []) (secondStops : secondRest.takeWhile keep = [])
    (same : first ++ firstRest = second ++ secondRest) :
    first = second ∧ firstRest = secondRest := by
  have heads := congrArg (List.takeWhile keep) same
  rw [List.takeWhile_append_of_pos firstKept, List.takeWhile_append_of_pos secondKept,
    firstStops, secondStops, List.append_nil, List.append_nil] at heads
  rw [heads] at same
  exact ⟨heads, List.append_cancel_left same⟩

namespace Identifier

theorem isAlphanum_of_mem_toDigitsCore (fuel : Nat) :
    forall number digits, IsAlphanumeric digits ->
      IsAlphanumeric (Nat.toDigitsCore 16 fuel number digits) := by
  have digit : forall value : Nat, value < 16 -> value.digitChar.isAlphanum = true := by
    decide
  induction fuel with
  | zero =>
      intro number digits plain
      exact plain
  | succ fuel ih =>
      intro number digits plain
      have longer : IsAlphanumeric ((number % 16).digitChar :: digits) := by
        intro char member
        rcases List.mem_cons.mp member with here | later
        · rw [here]
          exact digit _ (Nat.mod_lt number (by decide))
        · exact plain char later
      rw [Nat.toDigitsCore]
      split
      · exact longer
      · exact ih _ _ longer

theorem encodeIdChar_class (char : Char) : IsClassText (encodeIdChar char) := by
  rw [encodeIdChar]
  split
  · intro written member
    rw [List.mem_singleton.mp member]
    exact Or.inr (Or.inl rfl)
  · split
    · exact IsClassText.underscore.append IsClassText.underscore
    · split
      · rename_i kept
        intro written member
        rw [List.mem_singleton.mp member]
        exact Or.inl kept
      · have digits : IsClassText (Nat.toDigits 16 char.toNat) := by
          intro written member
          left
          exact isAlphanum_of_mem_toDigitsCore _ _ [] (fun _ inside => nomatch inside)
            written member
        exact (IsClassText.underscore.append digits).append IsClassText.underscore

theorem encodeId_class (id : String) : IsClassText (encodeId id).toList := by
  intro char member
  rw [encodeId, String.toList_ofList, List.mem_flatMap] at member
  rcases member with ⟨source, _, written⟩
  exact encodeIdChar_class source char written

theorem guardDigit_class {letters : List Char} (plain : IsAlphanumeric letters) :
    IsClassText (guardDigit letters) := by
  have all : IsClassText letters := fun char member => Or.inl (plain char member)
  cases letters with
  | nil => exact all
  | cons first rest =>
      rw [guardDigit]
      split
      · exact IsClassText.underscore.append all
      · exact all

end Identifier

theorem IsClassText.intercalate {separator : List Char} (joint : IsClassText separator)
    (parts : List (List Char)) (each : forall part, part ∈ parts -> IsClassText part) :
    IsClassText (separator.intercalate parts) := by
  induction parts with
  | nil =>
      rw [List.intercalate_nil]
      exact fun char member => nomatch member
  | cons first rest ih =>
      have head := each first List.mem_cons_self
      have tail := ih fun part member => each part (List.mem_cons_of_mem _ member)
      cases rest with
      | nil =>
          rw [List.intercalate_singleton]
          exact head
      | cons next others =>
          rw [List.intercalate_cons_cons]
          exact (head.append joint).append tail

namespace Scene

variable {scene : Scene}

theorem uniqueName_class {key : NodeKey} (valid : scene.IsNode key) :
    IsClassText (scene.uniqueName key).toList := by
  rw [uniqueName, String.toList_intercalate, List.map_map]
  apply IsClassText.intercalate IsClassText.underscore
  intro part member
  rcases List.mem_map.mp member with ⟨owner, listed, same⟩
  have ownerValid : scene.IsNode owner := by
    rcases List.mem_append.mp listed with above | itself
    · exact isNode_of_mem_ownerChain valid above
    · rw [List.mem_singleton.mp itself]
      exact valid
  rcases ownName_isIdentifier ownerValid with ⟨letters, plain, spelled⟩
  have written : part = Identifier.guardDigit letters := by
    rw [← same, Function.comp, spelled, String.toList_ofList]
  rw [written]
  exact Identifier.guardDigit_class plain.alphanumeric

/-- An export file is named after one node.  No name contains the sign that stands
before the size. -/
theorem eq_of_exportFileName_eq {first second : NodeKey}
    {firstSetting secondSetting : ExportSetting} (firstValid : scene.IsNode first)
    (secondValid : scene.IsNode second) (sameFile : first.file = second.file)
    (same : scene.exportFileName first firstSetting = scene.exportFileName second secondSetting) :
    first = second := by
  have letters := congrArg String.toList same
  simp only [exportFileName_eq, String.toList_append, List.append_assoc] at letters
  have named := List.append_cancel_left letters
  have foreign : ¬ IsClassChar '@' := by decide
  have unique := (append_inj_of_takeWhile ((uniqueName_class firstValid).bne foreign)
    ((uniqueName_class secondValid).bne foreign) rfl rfl named).1
  exact uniqueName_injective firstValid secondValid sameFile (String.toList_inj.mp unique)

/-- The class of a node is made of letters that are safe in a stylesheet. -/
theorem className_class {key : NodeKey} (valid : scene.IsNode key) :
    IsClassText (scene.className key).toList := by
  rw [className_eq, String.toList_append, String.toList_append, String.toList_append]
  have encoded := Identifier.encodeId_class (scene.node key).id
  have named := uniqueName_class valid
  exact ((IsClassText.underscore.append encoded).append IsClassText.underscore).append named

end Scene
end SceneMarkup

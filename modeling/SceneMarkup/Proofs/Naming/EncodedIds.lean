import SceneMarkup.Proofs.Naming.ClassNames

namespace SceneMarkup
namespace Identifier

/-!
# Encoded ids tell ids apart

The characters of an id are written one after the other, each as a word of its own.
A word is a single character other than the underscore, or it is a run of digits
between two underscores.  The run is empty for a semicolon and the code of the
character for everything else.  The underscore behind it shows where it ends, so no
word begins another one, and an encoded id can be cut into words in one way only.

The words are plain ASCII, and so are the names behind them.  Whatever an id and a name
contain, a class can stand in a selector as it is.
-/

/-! ## Codes of characters -/

theorem digitChar_injective {first second : Nat} (firstSmall : first < 16)
    (secondSmall : second < 16) (same : first.digitChar = second.digitChar) : first = second := by
  have table : forall left : Nat, left < 16 -> forall right : Nat, right < 16 ->
      left.digitChar = right.digitChar -> left = right := by
    decide
  exact table first firstSmall second secondSmall same

/-- Numbers are told apart by their digits to the base sixteen. -/
theorem toDigits_injective {first : Nat} : forall {second : Nat},
    Nat.toDigits 16 first = Nat.toDigits 16 second -> first = second := by
  induction first using Nat.strongRecOn with
  | ind first ih =>
      intro second same
      rw [Nat.toDigits_eq_if (by decide), Nat.toDigits_eq_if (n := second) (by decide)] at same
      split at same
      · rename_i firstSmall
        split at same
        · rename_i secondSmall
          exact digitChar_injective firstSmall secondSmall (List.singleton_inj.mp same)
        · exact absurd (List.append_eq_singleton_iff.mp same.symm) (by simp)
      · rename_i firstLarge
        split at same
        · exact absurd (List.append_eq_singleton_iff.mp same) (by simp)
        · -- The last digit is the remainder, and in front are the digits of the quotient.
          rcases List.append_inj' same rfl with ⟨front, last⟩
          have quotient := ih (first / 16) (by omega) front
          have remainder := digitChar_injective (Nat.mod_lt _ (by decide))
            (Nat.mod_lt _ (by decide)) (List.singleton_inj.mp last)
          omega

/-! ## Words -/

/-- The digits between the underscores of a word. -/
def escapeDigits (char : Char) : List Char :=
  if char = ';' then [] else Nat.toDigits 16 char.toNat

theorem escapeDigits_alphanumeric (char : Char) : IsAlphanumeric (escapeDigits char) := by
  rw [escapeDigits]
  split
  · exact fun _ inside => nomatch inside
  · exact isAlphanum_of_mem_toDigitsCore _ _ [] (fun _ inside => nomatch inside)

theorem escapeDigits_injective {first second : Char}
    (same : escapeDigits first = escapeDigits second) : first = second := by
  rw [escapeDigits, escapeDigits] at same
  split at same
  · rename_i firstSign
    split at same
    · rename_i secondSign
      rw [firstSign, secondSign]
    · exact absurd same.symm Nat.toDigits_ne_nil
  · split at same
    · exact absurd same Nat.toDigits_ne_nil
    · exact Char.toNat_inj.mp (toDigits_injective same)

/-- The character that a sign stands for. -/
def ofSign (sign : Char) : Char :=
  if sign = '-' then ':' else sign

/-- A word is a single sign other than the underscore, or a run of digits between
underscores. -/
inductive IsWord : Char -> List Char -> Prop where
  | single {sign : Char} (visible : sign ≠ '_') : IsWord (ofSign sign) [sign]
  | escaped (char : Char) : IsWord char ('_' :: (escapeDigits char ++ ['_']))

theorem encodeIdChar_isWord (char : Char) : IsWord char (encodeIdChar char) := by
  have escaped := IsWord.escaped char
  rw [escapeDigits] at escaped
  rw [encodeIdChar]
  split
  · rename_i colon
    rw [colon]
    exact @IsWord.single '-' (by decide)
  · split
    · rename_i semicolon
      rw [if_pos semicolon] at escaped
      exact escaped
    · rename_i other
      rw [if_neg other] at escaped
      split
      · rename_i letter
        have itself : ofSign char = char := by
          refine if_neg ?_
          intro hyphen
          rw [hyphen] at letter
          exact absurd letter (by decide)
        have word := IsWord.single (ne_underscore_of_isAlphanum letter)
        rw [itself] at word
        exact word
      · exact escaped

/-- No word begins another one. -/
theorem IsWord.append_inj {first second : Char} {firstWord secondWord firstRest
    secondRest : List Char} (firstIs : IsWord first firstWord)
    (secondIs : IsWord second secondWord)
    (same : firstWord ++ firstRest = secondWord ++ secondRest) :
    first = second ∧ firstRest = secondRest := by
  cases firstIs with
  | single firstVisible =>
      cases secondIs with
      | single secondVisible =>
          rcases List.cons.inj same with ⟨sign, rest⟩
          rw [sign]
          exact ⟨rfl, rest⟩
      | escaped => exact absurd (List.cons.inj same).1 firstVisible
  | escaped =>
      cases secondIs with
      | single secondVisible => exact absurd (List.cons.inj same).1.symm secondVisible
      | escaped =>
          -- Digits are no underscores, so both runs end at the first underscore.
          have inside : escapeDigits first ++ '_' :: firstRest =
              escapeDigits second ++ '_' :: secondRest := by
            rw [List.append_cons _ _ firstRest, List.append_cons _ _ secondRest]
            exact (List.cons.inj same).2
          rcases append_inj_of_takeWhile (escapeDigits_alphanumeric first)
            (escapeDigits_alphanumeric second) rfl rfl inside with ⟨digits, rest⟩
          exact ⟨escapeDigits_injective digits, (List.cons.inj rest).2⟩

theorem IsWord.nonempty {char : Char} {word : List Char} (isWord : IsWord char word) :
    word ≠ [] := by
  cases isWord <;> exact List.cons_ne_nil _ _

theorem flatMap_encodeIdChar_injective {first : List Char} : forall {second : List Char},
    first.flatMap encodeIdChar = second.flatMap encodeIdChar -> first = second := by
  induction first with
  | nil =>
      intro second same
      cases second with
      | nil => rfl
      | cons char rest =>
          rw [List.flatMap_nil, List.flatMap_cons] at same
          exact absurd (List.append_eq_nil_iff.mp same.symm).1 (encodeIdChar_isWord char).nonempty
  | cons char rest ih =>
      intro second same
      cases second with
      | nil =>
          rw [List.flatMap_nil, List.flatMap_cons] at same
          exact absurd (List.append_eq_nil_iff.mp same).1 (encodeIdChar_isWord char).nonempty
      | cons other others =>
          rw [List.flatMap_cons, List.flatMap_cons] at same
          rcases (encodeIdChar_isWord char).append_inj (encodeIdChar_isWord other) same with
            ⟨head, tail⟩
          rw [head, ih tail]

/-- Different ids are encoded differently. -/
theorem encodeId_injective {first second : String} (same : encodeId first = encodeId second) :
    first = second := by
  rw [encodeId, encodeId] at same
  exact String.toList_inj.mp (flatMap_encodeIdChar_injective (String.ofList_injective same))

theorem encodeId_inj (first second : String) :
    encodeId first = encodeId second ↔ first = second :=
  ⟨encodeId_injective, congrArg encodeId⟩

end Identifier

/-! ## Classes in plain ASCII -/

theorem IsClassChar.ascii {char : Char} (plain : IsClassChar char) : char.toNat < 128 := by
  rcases plain with letter | hyphen | underscore
  · simp only [Char.isAlphanum, Char.isAlpha, Char.isUpper, Char.isLower, Char.isDigit,
      Bool.or_eq_true, Bool.and_eq_true, decide_eq_true_eq, UInt32.le_iff_toNat_le,
      ge_iff_le] at letter
    have nine : '9'.val.toNat = 57 := rfl
    have capital : 'Z'.val.toNat = 90 := rfl
    have small : 'z'.val.toNat = 122 := rfl
    change char.val.toNat < 128
    omega
  · rw [hyphen]
    decide
  · rw [underscore]
    decide

namespace Scene

/-- Ids are encoded alike only if they are the same.  The class of a node, whatever its id
and its name contain, begins with an underscore and consists of ASCII letters and digits,
hyphens and underscores. -/
theorem ids_told_apart_in_plain_classes :
    (forall first second : String,
      Identifier.encodeId first = Identifier.encodeId second ↔ first = second) ∧
    forall (scene : Scene) (key : NodeKey), scene.IsNode key ->
      (scene.className key).toList.head? = some '_' ∧
      forall letter, letter ∈ (scene.className key).toList ->
        letter.toNat < 128 ∧ (letter.isAlphanum = true ∨ letter = '-' ∨ letter = '_') := by
  refine ⟨Identifier.encodeId_inj, ?_⟩
  intro scene key valid
  constructor
  · rw [className_eq, String.append_assoc, String.append_assoc, String.toList_append]
    rfl
  · intro letter member
    have plain := className_class valid letter member
    exact ⟨plain.ascii, plain⟩

/-- A document whose only component has an id and a name full of signs. -/
def signedComponent : Scene where
  main := .ofDocument (.ofRoot (.container "0:0" "Document" .document
    [.container "I5:1;é_;5f;" "\x7bGröße\x7d & \"Preis\"" (.component false .blank) []]))
  imports := []

/-- None of the signs is left in the class. -/
theorem signedComponent_class_plain :
    signedComponent.className ⟨.main, 1⟩ = "_I5-1___e9__5f___5f___grEPreis" ∧
    forall letter, letter ∈ (signedComponent.className ⟨.main, 1⟩).toList ->
      letter.toNat < 128 ∧ (letter.isAlphanum = true ∨ letter = '-' ∨ letter = '_') := by
  have valid : signedComponent.IsNode ⟨.main, 1⟩ := by decide +kernel
  exact ⟨by decide +kernel, (ids_told_apart_in_plain_classes.2 signedComponent _ valid).2⟩

end Scene
end SceneMarkup

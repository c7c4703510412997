import Mathlib
import SceneMarkup.Naming.Identifier

namespace SceneMarkup
namespace Identifier

/-!
# How names are spelled

Names are joined by underscores, so a joined name can be taken apart again only
because underscores are rare inside its parts: an identifier is a run of letters
and digits that does not begin with a capital, and an underscore stands before it
exactly when it begins with a digit.  The run at the very end of a name is
therefore the last identifier, and what stands before it does not matter.

The same run can be read off the capitalized spelling.  Capitalizing changes the
first letter of each part only, and that letter was small, so nothing is lost.
-/

/-! ## Letters and digits -/

theorem toLower_eq_of_not_isAlpha {char : Char} (other : char.isAlpha = false) :
    char.toLower = char := by
  rw [Char.isAlpha, Bool.or_eq_false_iff] at other
  exact Char.toLower_eq_of_not_isUpper (Bool.eq_false_iff.mp other.1)

theorem toUpper_eq_of_not_isAlpha {char : Char} (other : char.isAlpha = false) :
    char.toUpper = char := by
  rw [Char.isAlpha, Bool.or_eq_false_iff] at other
  exact Char.toUpper_eq_of_not_isLower (Bool.eq_false_iff.mp other.2)

theorem isAlphanum_toLower (char : Char) : char.toLower.isAlphanum = char.isAlphanum := by
  cases alpha : char.isAlpha with
  | true => simp only [Char.isAlphanum, Char.isAlpha_toLower_eq_isAlpha, alpha, Bool.true_or]
  | false => rw [toLower_eq_of_not_isAlpha alpha]

theorem isAlphanum_toUpper (char : Char) : char.toUpper.isAlphanum = char.isAlphanum := by
  cases alpha : char.isAlpha with
  | true => simp only [Char.isAlphanum, Char.isAlpha_toUpper_eq_isAlpha, alpha, Bool.true_or]
  | false => rw [toUpper_eq_of_not_isAlpha alpha]

theorem isDigit_eq_false_of_isAlpha {char : Char} (alpha : char.isAlpha = true) :
    char.isDigit = false := by
  simp only [Char.isAlpha, Char.isUpper, Char.isLower, Char.isDigit, Bool.or_eq_true,
    Bool.and_eq_true, decide_eq_true_eq, Bool.and_eq_false_iff, decide_eq_false_iff_not,
    UInt32.le_iff_toNat_le, ge_iff_le] at alpha ⊢
  have nine : '9'.val.toNat = 57 := rfl
  have capital : 'A'.val.toNat = 65 := rfl
  have small : 'a'.val.toNat = 97 := rfl
  omega

theorem isDigit_toUpper (char : Char) : char.toUpper.isDigit = char.isDigit := by
  cases alpha : char.isAlpha with
  | true =>
      rw [isDigit_eq_false_of_isAlpha alpha]
      exact isDigit_eq_false_of_isAlpha ((Char.isAlpha_toUpper_eq_isAlpha char).trans alpha)
  | false => rw [toUpper_eq_of_not_isAlpha alpha]

theorem ne_underscore_of_isAlphanum {char : Char} (letter : char.isAlphanum = true) :
    ¬ char = '_' := by
  intro same
  rw [same] at letter
  exact absurd letter (by decide)

/-- A capital tells which letter it was made of, if that letter was none. -/
theorem toUpper_injective {first second : Char} (firstSmall : first.isUpper = false)
    (secondSmall : second.isUpper = false) (same : first.toUpper = second.toUpper) :
    first = second := by
  have lowered := congrArg Char.toLower same
  rw [Char.toLower_toUpper_eq_toLower, Char.toLower_toUpper_eq_toLower,
    Char.toLower_eq_of_not_isUpper (Bool.eq_false_iff.mp firstSmall),
    Char.toLower_eq_of_not_isUpper (Bool.eq_false_iff.mp secondSmall)] at lowered
  exact lowered

/-! ## Plain words -/

/-- Every character is a letter or a digit. -/
def IsAlphanumeric (letters : List Char) : Prop :=
  forall char, char ∈ letters -> char.isAlphanum = true

/-- The letters of an identifier: at least one, and no capital first. -/
structure IsPlain (letters : List Char) : Prop where
  nonempty : ¬ letters = []
  alphanumeric : IsAlphanumeric letters
  small : forall char, letters.head? = some char -> char.isUpper = false

theorem wordsFrom_alphanumeric (text : List Char) :
    forall word, IsAlphanumeric word -> forall found, found ∈ wordsFrom word text ->
      IsAlphanumeric found := by
  induction text with
  | nil =>
      intro word plain found member
      rw [wordsFrom, List.mem_singleton] at member
      rw [member]
      exact fun char inside => plain char (List.mem_reverse.mp inside)
  | cons char rest ih =>
      intro word plain found member
      have finished : IsAlphanumeric word.reverse :=
        fun other inside => plain other (List.mem_reverse.mp inside)
      have none : IsAlphanumeric [] := fun other inside => nomatch inside
      rw [wordsFrom] at member
      split at member
      · rcases List.mem_cons.mp member with same | later
        · rw [same]
          exact finished
        · exact ih [] none found later
      · rename_i kept
        rw [Bool.not_eq_true, Bool.not_eq_false'] at kept
        split at member
        · rcases List.mem_cons.mp member with same | later
          · rw [same]
            exact finished
          · refine ih [char] ?_ found later
            intro other inside
            rw [List.mem_singleton.mp inside]
            exact kept
        · refine ih (char :: word) ?_ found member
          intro other inside
          rcases List.mem_cons.mp inside with here | before
          · rw [here]
            exact kept
          · exact plain other before

theorem mem_words {text word : List Char} (member : word ∈ words text) :
    IsAlphanumeric word ∧ ¬ word = [] := by
  rw [words, List.mem_filter] at member
  refine ⟨wordsFrom_alphanumeric text [] (fun char inside => nomatch inside) word member.1, ?_⟩
  intro empty
  rw [empty] at member
  exact absurd member.2 (by decide)

theorem capitalized_alphanumeric {word : List Char} (plain : IsAlphanumeric word) :
    IsAlphanumeric (capitalized word) := by
  cases word with
  | nil => exact plain
  | cons first rest =>
      intro char inside
      rcases List.mem_cons.mp inside with here | later
      · rw [here, isAlphanum_toUpper]
        exact plain first List.mem_cons_self
      · rcases List.mem_map.mp later with ⟨source, member, same⟩
        rw [← same, isAlphanum_toLower]
        exact plain source (List.mem_cons_of_mem _ member)

/-- Camel casing makes a plain word, if it makes anything: the first word is
written small. -/
theorem camel_plain {text : List Char} (nonempty : ¬ camel text = []) : IsPlain (camel text) := by
  unfold camel at nonempty ⊢
  cases found : words text with
  | nil =>
      rw [found] at nonempty
      exact absurd rfl nonempty
  | cons word rest =>
      have all : forall other, other ∈ word :: rest -> IsAlphanumeric other ∧ ¬ other = [] :=
        fun other member => mem_words (found ▸ member)
      have first := all word List.mem_cons_self
      rw [found] at nonempty
      refine ⟨nonempty, ?_, ?_⟩
      · intro char inside
        rcases List.mem_append.mp inside with here | later
        · rcases List.mem_map.mp here with ⟨source, member, same⟩
          rw [← same, isAlphanum_toLower]
          exact first.1 source member
        · rcases List.mem_flatMap.mp later with ⟨other, member, within⟩
          have plain := (all other (List.mem_cons_of_mem _ member)).1
          exact capitalized_alphanumeric plain char within
      · intro char head
        cases word with
        | nil => exact absurd rfl first.2
        | cons letter others =>
            rw [← Option.some.inj head]
            exact Char.isUpper_toLower_eq_false letter

/-- The name of every type has letters. -/
theorem camel_type_nonempty (type : NodeType) : ¬ camel type.name.toList = [] := by
  cases type <;> decide +kernel

/-! ## Identifiers -/

/-- A plain word, guarded against a leading digit. -/
def IsIdentifier (name : String) : Prop :=
  Exists fun letters => IsPlain letters ∧ name = String.ofList (guardDigit letters)

theorem base_isIdentifier (node : Node) : IsIdentifier (base node) := by
  rw [base]
  by_cases empty : (camel (node.name.toList.take nameLimit)).isEmpty = true
  · rw [if_pos empty]
    exact ⟨_, camel_plain (camel_type_nonempty node.type), rfl⟩
  · rw [if_neg empty]
    rw [List.isEmpty_iff] at empty
    exact ⟨_, camel_plain empty, rfl⟩

/-- An ordinal only adds digits at the end. -/
theorem numbered_isIdentifier {base : String} (plain : IsIdentifier base) (ordinal : Nat) :
    IsIdentifier (Allocation.numbered base ordinal) := by
  rcases plain with ⟨letters, plain, same⟩
  subst same
  refine ⟨letters ++ Nat.toDigits 10 ordinal, ⟨?_, ?_, ?_⟩, ?_⟩
  · intro empty
    exact plain.nonempty (List.append_eq_nil_iff.mp empty).1
  · intro char inside
    rcases List.mem_append.mp inside with old | digit
    · exact plain.alphanumeric char old
    · have isDigit := Nat.isDigit_of_mem_toDigits (by decide) (by decide) digit
      rw [Char.isAlphanum, isDigit, Bool.or_true]
  · intro char head
    cases letters with
    | nil => exact absurd rfl plain.nonempty
    | cons first rest => exact plain.small char head
  · rw [Allocation.numbered, Number.digitString, ← String.ofList_append]
    cases letters with
    | nil => exact absurd rfl plain.nonempty
    | cons first rest =>
        rw [List.cons_append, guardDigit, guardDigit]
        split <;> rfl

/-! ## The last word of a name -/

/-- The letters and digits at the end of a text. -/
def lastWord (text : List Char) : List Char :=
  (text.reverse.takeWhile Char.isAlphanum).reverse

/-- A word can begin behind such a text: it is empty or ends with an
underscore. -/
def IsJoint (front : List Char) : Prop :=
  front = [] ∨ Exists fun shorter => front = shorter ++ ['_']

theorem lastWord_append {front letters : List Char} (joint : IsJoint front)
    (plain : IsAlphanumeric letters) : lastWord (front ++ letters) = letters := by
  have kept : forall char, char ∈ letters.reverse -> char.isAlphanum = true :=
    fun char inside => plain char (List.mem_reverse.mp inside)
  have stopped : front.reverse.takeWhile Char.isAlphanum = [] := by
    rcases joint with empty | ⟨shorter, whole⟩
    · rw [empty]
      rfl
    · rw [whole, List.reverse_append]
      rfl
  rw [lastWord, List.reverse_append, List.takeWhile_append_of_pos kept, stopped, List.append_nil,
    List.reverse_reverse]

/-- An identifier at the end of a name is its last word, with or without the
guard. -/
theorem lastWord_append_guardDigit {front letters : List Char} (joint : IsJoint front)
    (plain : IsAlphanumeric letters) : lastWord (front ++ guardDigit letters) = letters := by
  cases letters with
  | nil => exact lastWord_append joint plain
  | cons first rest =>
      rw [guardDigit]
      split
      · have longer : IsJoint (front ++ ['_']) := Or.inr ⟨front, rfl⟩
        rw [List.append_cons]
        exact lastWord_append longer plain
      · exact lastWord_append joint plain

/-! ## Capitalized parts -/

theorem capitalizeParts_append_underscore (front back : List Char) :
    forall atStart, capitalizeParts atStart (front ++ '_' :: back) =
      capitalizeParts atStart front ++ '_' :: capitalizeParts true back := by
  induction front with
  | nil =>
      intro atStart
      cases atStart <;> rfl
  | cons char rest ih =>
      intro atStart
      rw [List.cons_append, capitalizeParts, capitalizeParts, ih, List.cons_append]

/-- Parts are capitalized independently of each other. -/
theorem capitalizeParts_append {front : List Char} (joint : IsJoint front) (back : List Char) :
    capitalizeParts true (front ++ back) =
      capitalizeParts true front ++ capitalizeParts true back := by
  rcases joint with empty | ⟨shorter, whole⟩
  · rw [empty]
    rfl
  · rw [whole, ← List.append_cons, capitalizeParts_append_underscore,
      capitalizeParts_append_underscore, List.append_assoc]
    rfl

theorem capitalizeParts_joint {front : List Char} (joint : IsJoint front) :
    IsJoint (capitalizeParts true front) := by
  rcases joint with empty | ⟨shorter, whole⟩
  · rw [empty]
    exact Or.inl rfl
  · rw [whole, capitalizeParts_append_underscore]
    exact Or.inr ⟨_, rfl⟩

theorem capitalizeParts_false {letters : List Char} (plain : IsAlphanumeric letters) :
    capitalizeParts false letters = letters := by
  induction letters with
  | nil => rfl
  | cons first rest ih =>
      have letter := plain first List.mem_cons_self
      rw [capitalizeParts, beq_eq_false_iff_ne.mpr (ne_underscore_of_isAlphanum letter),
        ih fun char inside => plain char (List.mem_cons_of_mem _ inside)]
      rfl

/-- A single word is capitalized by its first letter. -/
theorem capitalizeParts_guardDigit {letters : List Char} (plain : IsAlphanumeric letters) :
    capitalizeParts true (guardDigit letters) = guardDigit (letters.modifyHead Char.toUpper) := by
  cases letters with
  | nil => rfl
  | cons first rest =>
      have letter := plain first List.mem_cons_self
      have others : IsAlphanumeric rest :=
        fun char inside => plain char (List.mem_cons_of_mem _ inside)
      have word : capitalizeParts true (first :: rest) = first.toUpper :: rest := by
        rw [capitalizeParts, beq_eq_false_iff_ne.mpr (ne_underscore_of_isAlphanum letter),
          capitalizeParts_false others]
        rfl
      rw [List.modifyHead_cons, guardDigit, guardDigit, isDigit_toUpper]
      split
      · rw [← word]
        rfl
      · exact word

theorem modifyHead_toUpper_alphanumeric {letters : List Char} (plain : IsAlphanumeric letters) :
    IsAlphanumeric (letters.modifyHead Char.toUpper) := by
  cases letters with
  | nil => exact plain
  | cons first rest =>
      intro char inside
      rcases List.mem_cons.mp inside with here | later
      · rw [here, isAlphanum_toUpper]
        exact plain first List.mem_cons_self
      · exact plain char (List.mem_cons_of_mem _ later)

theorem modifyHead_toUpper_injective {first second : List Char} (firstPlain : IsPlain first)
    (secondPlain : IsPlain second)
    (same : first.modifyHead Char.toUpper = second.modifyHead Char.toUpper) : first = second := by
  cases first with
  | nil => exact absurd rfl firstPlain.nonempty
  | cons firstHead firstRest =>
      cases second with
      | nil => exact absurd rfl secondPlain.nonempty
      | cons secondHead secondRest =>
          rw [List.modifyHead_cons, List.modifyHead_cons, List.cons.injEq] at same
          rw [toUpper_injective (firstPlain.small firstHead rfl)
            (secondPlain.small secondHead rfl) same.1, same.2]

/-- The capitalized spelling of a name keeps the letters of its last word, the
first as a capital. -/
theorem lastWord_capitalizeParts {front letters : List Char} (joint : IsJoint front)
    (plain : IsAlphanumeric letters) :
    lastWord (capitalizeParts true (front ++ guardDigit letters)) =
      letters.modifyHead Char.toUpper := by
  rw [capitalizeParts_append joint, capitalizeParts_guardDigit plain]
  exact lastWord_append_guardDigit (capitalizeParts_joint joint)
    (modifyHead_toUpper_alphanumeric plain)

end Identifier
end SceneMarkup

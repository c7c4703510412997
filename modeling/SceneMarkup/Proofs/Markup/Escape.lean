import SceneMarkup.Markup.Escape

namespace SceneMarkup
namespace Escape

/-!
# Escaped text reads back

Escaping forgets one thing only: how a run of line breaks was made up.  Once every run
is one break, a text is escaped character by character, each one being written as a word
of its own, and no word can be mistaken for another or for the beginning of two.  A
break tag begins with a space, as other text may, but an opening bracket behind it is
found nowhere else.

So escaped text can be read back, and nothing in it is read as markup except the break
tags that stand for breaks.
-/

/-! ## Runs of breaks -/

/-- Every run of line breaks as one break. -/
def collapse : List Char -> List Char
  | [] => []
  | char :: rest =>
      if isBreak char then '\n' :: collapse (rest.dropWhile isBreak)
      else char :: collapse rest
termination_by characters => characters.length
decreasing_by
  · exact Nat.lt_succ_of_le (List.dropWhile_suffix isBreak).length_le
  · exact Nat.lt_succ_self rest.length

/-- A text in which every run of line breaks is one break. -/
def joined (characters : String) : String :=
  String.ofList (collapse characters.toList)

/-- The rest of a run adds nothing to what was written for its beginning. -/
theorem escapeFrom_true (characters : List Char) :
    escapeFrom true characters = escapeFrom false (characters.dropWhile isBreak) := by
  induction characters with
  | nil => rfl
  | cons char rest ih =>
      by_cases breaks : isBreak char = true
      · rw [escapeFrom, if_pos breaks, List.dropWhile_cons_of_pos breaks, ← ih]
        rfl
      · rw [List.dropWhile_cons_of_neg breaks, escapeFrom, escapeFrom, if_neg breaks, if_neg breaks]

theorem eq_of_mem_collapse {characters : List Char} {char : Char}
    (member : char ∈ collapse characters) : char = '\n' ∨ isBreak char = false := by
  fun_induction collapse characters with
  | case1 => cases member
  | case2 first rest breaks ih => exact (List.mem_cons.mp member).elim Or.inl ih
  | case3 first rest plain ih =>
      rcases List.mem_cons.mp member with same | later
      · exact Or.inr (same ▸ Bool.eq_false_iff.mpr plain)
      · exact ih later

/-! ## Words -/

/-- The word that one character is written as. -/
def word (char : Char) : List Char :=
  if char = '\n' then breakTag else reference char

/-- Escaped text has one word for each character, once every run is one break. -/
theorem escapeFrom_eq_words (characters : List Char) :
    escapeFrom false characters = (collapse characters).flatMap word := by
  fun_induction collapse characters with
  | case1 => rfl
  | case2 char rest breaks ih =>
      rw [escapeFrom, if_pos breaks, escapeFrom_true, ih, List.flatMap_cons]
      rfl
  | case3 char rest plain ih =>
      have notNewline : char ≠ '\n' := by
        rintro rfl
        exact plain rfl
      rw [escapeFrom, if_neg plain, ih, List.flatMap_cons, word, if_neg notNewline]

/-- The characters that are written as references. -/
def specials : List Char :=
  ['&', '<', '>', '\x7b', '\x7d']

theorem reference_of_not_mem_specials {char : Char} (plain : char ∉ specials) :
    reference char = [char] := by
  simp only [specials, List.mem_cons, List.not_mem_nil, or_false, not_or] at plain
  simp only [reference, plain, if_false]

/-- What would be read as markup: breaks, and the special characters except for the
ampersand, which references begin with. -/
def isMarkup (char : Char) : Bool :=
  isBreak char || (char != '&' && specials.contains char)

theorem isMarkup_of_mem_reference {char letter : Char} (plain : isBreak char = false)
    (member : letter ∈ reference char) : isMarkup letter = false := by
  by_cases special : char ∈ specials
  · have each : specials.all (fun char => (reference char).all (! isMarkup ·)) = true := by decide
    rw [List.all_eq_true] at each
    have plainLetter := List.all_eq_true.mp (each char special) letter member
    exact (Bool.not_eq_true' _).mp plainLetter
  · rw [reference_of_not_mem_specials special, List.mem_singleton] at member
    rw [member, isMarkup, plain, Bool.false_or, Bool.and_eq_false_iff]
    exact Or.inr (by simpa only [List.contains_eq_mem, decide_eq_false_iff_not] using special)

/-! ## Reading -/

/-- Read escaped text: references and break tags stand for one character each. -/
def read : List Char -> List Char
  | '&' :: 'a' :: 'm' :: 'p' :: ';' :: rest => '&' :: read rest
  | '&' :: 'l' :: 't' :: ';' :: rest => '<' :: read rest
  | '&' :: 'g' :: 't' :: ';' :: rest => '>' :: read rest
  | '&' :: '#' :: '1' :: '2' :: '3' :: ';' :: rest => '\x7b' :: read rest
  | '&' :: '#' :: '1' :: '2' :: '5' :: ';' :: rest => '\x7d' :: read rest
  | ' ' :: '<' :: 'b' :: 'r' :: ' ' :: '/' :: '>' :: ' ' :: rest => '\n' :: read rest
  | char :: rest => char :: read rest
  | [] => []

/-- Read an escaped text. -/
def readText (escaped : String) : String :=
  String.ofList (read escaped.toList)

theorem read_cons_of_plain {char : Char} {rest : List Char} (noReference : char ≠ '&')
    (noTag : rest.head? ≠ some '<') : read (char :: rest) = char :: read rest := by
  rw [read]
  all_goals
    intros
    simp_all

theorem read_reference_append {char : Char} {rest : List Char}
    (noTag : rest.head? ≠ some '<') : read (reference char ++ rest) = char :: read rest := by
  by_cases special : char ∈ specials
  · have each : forall char, char ∈ specials ->
        read (reference char ++ rest) = char :: read rest := by
      simp only [specials, List.forall_mem_cons]
      exact ⟨rfl, rfl, rfl, rfl, rfl, nofun⟩
    exact each char special
  · rw [reference_of_not_mem_specials special]
    refine read_cons_of_plain ?_ noTag
    rintro rfl
    exact special List.mem_cons_self

/-- No word begins like the rest of a break tag. -/
theorem head?_word_append (char : Char) (rest : List Char) :
    (word char ++ rest).head? ≠ some '<' := by
  rw [word]
  split
  · exact fun same => absurd (Option.some.inj same) (by decide)
  · by_cases special : char ∈ specials
    · have each : specials.all (fun char => (reference char).head? == some '&') = true := by decide
      rw [List.head?_append, beq_iff_eq.mp (List.all_eq_true.mp each char special)]
      exact fun same => absurd (Option.some.inj same) (by decide)
    · rw [reference_of_not_mem_specials special]
      rintro same
      exact special (Option.some.inj same ▸ by decide)

theorem head?_words (characters : List Char) : (characters.flatMap word).head? ≠ some '<' := by
  cases characters with
  | nil => exact nofun
  | cons char rest =>
      rw [List.flatMap_cons]
      exact head?_word_append char _

/-- Words that follow one another are told apart. -/
theorem read_words (characters : List Char) : read (characters.flatMap word) = characters := by
  induction characters with
  | nil => rfl
  | cons char rest ih =>
      rw [List.flatMap_cons, word]
      split
      · rename_i newline
        rw [newline]
        exact congrArg ('\n' :: ·) ih
      · rw [read_reference_append (head?_words rest), ih]

/-! ## Escaped text -/

theorem toList_text (characters : String) :
    (text characters).toList = (joined characters).toList.flatMap word := by
  rw [text, joined, String.toList_ofList, String.toList_ofList, escapeFrom_eq_words]

theorem word_of_mem_joined {characters : String} {char : Char}
    (member : char ∈ (joined characters).toList) :
    (char = '\n' ∧ word char = breakTag) ∨
      forall letter, letter ∈ word char -> isMarkup letter = false := by
  rw [joined, String.toList_ofList] at member
  rw [word]
  split
  · rename_i newline
    exact Or.inl ⟨newline, rfl⟩
  · rename_i notNewline
    have plain := (eq_of_mem_collapse member).resolve_left notNewline
    exact Or.inr fun letter => isMarkup_of_mem_reference plain

theorem readText_text (characters : String) : readText (text characters) = joined characters := by
  rw [readText, toList_text, read_words, String.ofList_toList]

/-- Escaped text reads back with every run of line breaks as one break, so that two texts
are escaped to the same if and only if they differ in such runs at most.  It consists of
words, one for each character that reads back: the word of a break is the break tag, and
nothing in another word is read as markup.  Breaks and braces occur in no word. -/
theorem text_reads_back (characters : String) :
    readText (text characters) = joined characters ∧
    (forall other, text characters = text other ↔ joined characters = joined other) ∧
    (text characters).toList = (joined characters).toList.flatMap word ∧
    (forall char, char ∈ (joined characters).toList ->
      (char = '\n' ∧ word char = breakTag) ∨
        forall letter, letter ∈ word char -> isMarkup letter = false) ∧
    forall letter, letter ∈ (text characters).toList ->
      letter ∉ ['\n', '\r', '\x7b', '\x7d'] := by
  refine ⟨readText_text characters, ?_, toList_text characters, fun _ => word_of_mem_joined, ?_⟩
  · intro other
    constructor
    · intro same
      rw [← readText_text, same, readText_text]
    · intro same
      rw [← String.toList_inj, toList_text, toList_text, same]
  · intro letter member listed
    rw [toList_text, List.mem_flatMap] at member
    rcases member with ⟨char, among, ofWord⟩
    rcases word_of_mem_joined among with ⟨_, tag⟩ | plain
    · have inTag : breakTag.all (· ∉ ['\n', '\r', '\x7b', '\x7d']) = true := by decide
      have apart := List.all_eq_true.mp inTag letter (tag ▸ ofWord)
      exact of_decide_eq_true apart listed
    · have marked : ['\n', '\r', '\x7b', '\x7d'].all isMarkup = true := by decide
      have impossible := plain letter ofWord
      rw [List.all_eq_true.mp marked letter listed] at impossible
      cases impossible

end Escape
end SceneMarkup

import SceneMarkup.Proofs.Markup.Fragments
import SceneMarkup.Proofs.Report

namespace SceneMarkup

/-!
# Lines of markup

The writer gets fragments and indents where a fragment begins a line.  Seen from
outside, what it writes are lines: each one stands at a depth, is indented by two
blanks for every level unless it is blank, and ends with a line break.  Fragments that
hold no break of their own make up one line together with the break behind them, in
whatever way the line was cut into fragments.
-/

/-- Characters that break no line. -/
def UnbrokenLetters (letters : List Char) : Prop :=
  letters.all (fun char => ! Escape.isBreak char) = true

/-- A text that breaks no line. -/
def Unbroken (text : String) : Prop :=
  UnbrokenLetters text.toList

instance (text : String) : Decidable (Unbroken text) :=
  inferInstanceAs (Decidable (text.toList.all (fun char => ! Escape.isBreak char) = true))

theorem unbrokenLetters_iff (letters : List Char) :
    UnbrokenLetters letters ↔ forall char, char ∈ letters -> Escape.isBreak char = false := by
  simp only [UnbrokenLetters, List.all_eq_true, Bool.not_eq_true']

theorem UnbrokenLetters.append {first second : List Char} (before : UnbrokenLetters first)
    (behind : UnbrokenLetters second) : UnbrokenLetters (first ++ second) := by
  rw [UnbrokenLetters, List.all_append, Bool.and_eq_true]
  exact ⟨before, behind⟩

theorem unbroken_append_iff (first second : String) :
    Unbroken (first ++ second) ↔ Unbroken first ∧ Unbroken second := by
  rw [Unbroken, UnbrokenLetters, String.toList_append, List.all_append, Bool.and_eq_true]
  rfl

theorem unbroken_join_iff (texts : List String) :
    Unbroken (String.join texts) ↔ forall text, text ∈ texts -> Unbroken text := by
  induction texts with
  | nil => exact ⟨fun _ => nofun, fun _ => rfl⟩
  | cons text rest ih => rw [String.join_cons, unbroken_append_iff, ih, List.forall_mem_cons]

/-- A line at a depth, without its break. -/
structure Line where
  depth : Nat
  text : String
  deriving Repr, DecidableEq

namespace Line

/-- A line in full.  A blank line is not indented. -/
def full (line : Line) : String :=
  (if line.text = "" then "" else Writer.indentation line.depth) ++ line.text ++ "\n"

/-- Lines in full, one after the other. -/
def joined (lines : List Line) : String :=
  String.join (lines.map full)

theorem full_outside (text : String) : full ⟨0, text⟩ = text ++ "\n" := by
  have margin : (if text = "" then "" else Writer.indentation 0) = "" := by
    split <;> rfl
  rw [full, margin, String.empty_append]

theorem joined_cons (line : Line) (lines : List Line) :
    joined (line :: lines) = line.full ++ joined lines := by
  rw [joined, List.map_cons, String.join_cons, joined]

theorem joined_append (first second : List Line) :
    joined (first ++ second) = joined first ++ joined second := by
  rw [joined, List.map_append, String.join_append, joined, joined]

end Line

namespace Writer

theorem beginsWithBreak_of_unbroken {fragment : String} (unbroken : Unbroken fragment) :
    beginsWithBreak fragment = false := by
  rw [Unbroken, unbrokenLetters_iff] at unbroken
  rw [beginsWithBreak]
  cases letters : fragment.toList with
  | nil => rfl
  | cons char rest => exact unbroken char (letters ▸ List.mem_cons_self)

/-- A line that begins with its break is blank. -/
theorem beginsWithBreak_append_break {text : String} (unbroken : Unbroken text) :
    beginsWithBreak (text ++ "\n") = decide (text = "") := by
  by_cases empty : text = ""
  · rw [empty]
    rfl
  · rw [decide_eq_false empty, beginsWithBreak_append empty]
    exact beginsWithBreak_of_unbroken unbroken

theorem endsLine_of_unbroken {fragment : String} (unbroken : Unbroken fragment) :
    endsLine fragment = false := by
  rw [Unbroken, unbrokenLetters_iff] at unbroken
  rw [endsLine, beq_eq_false_iff_ne]
  intro ends
  cases unbroken '\n' (List.mem_of_getLast? ends)

theorem endsLine_append_break (text : String) : endsLine (text ++ "\n") = true := by
  rw [endsLine, String.toList_append]
  simp

/-- A line in full, added at the start of a line, is indented as its depth has it. -/
theorem append_line (buffer : String) (depth : Nat) {text : String} (unbroken : Unbroken text) :
    Writer.append ⟨buffer, depth, true⟩ (text ++ "\n") =
      ⟨buffer ++ Line.full ⟨depth, text⟩, depth, true⟩ := by
  have nonempty : text ++ "\n" ≠ "" := by simp
  rw [append_of_ne _ nonempty, endsLine_append_break, beginsWithBreak_append_break unbroken,
    Line.full]
  by_cases blank : text = "" <;> simp [blank, String.append_assoc]

/-- Fragments that break no line have no seam, whatever the last one is. -/
theorem isSeamless_concat {fragments : List String}
    (unbroken : forall fragment, fragment ∈ fragments -> Unbroken fragment) (last : String) :
    IsSeamless (fragments ++ [last]) := by
  intro fragment member
  apply endsLine_of_unbroken
  apply unbroken
  rw [List.filter_append] at member
  by_cases blank : last = ""
  · rw [List.filter_cons_of_neg (by simp [blank]), List.filter_nil, List.append_nil] at member
    exact (List.mem_filter.mp (List.dropLast_subset _ member)).1
  · rw [List.filter_cons_of_pos (by simp [blank]), List.filter_nil,
      List.dropLast_concat] at member
    exact (List.mem_filter.mp member).1

/-- Fragments at the start of a line make up a line. -/
theorem putAll?_line (depth : Nat) {last : String} (unbrokenLast : Unbroken last)
    {fragments : List String}
    (unbroken : forall fragment, fragment ∈ fragments -> Unbroken fragment) (buffer : String) :
    Writer.putAll? ⟨buffer, depth, true⟩ (Piece.texts (fragments ++ [last ++ "\n"])) =
      .ok ⟨buffer ++ Line.full ⟨depth, String.join fragments ++ last⟩, depth, true⟩ := by
  have whole : Unbroken (String.join fragments ++ last) :=
    (unbroken_append_iff _ _).mpr ⟨(unbroken_join_iff _).mpr unbroken, unbrokenLast⟩
  rw [putAll?_texts, foldl_append_of_isSeamless (isSeamless_concat unbroken _),
    String.join_append, String.join_cons, String.join_nil, String.append_empty,
    ← String.append_assoc, append_line buffer depth whole]

end Writer

namespace Piece

/-- From the start of a line at a depth, pieces add a text and come back to the start of
a line at that depth. -/
def Writes (pieces : List Piece) (depth : Nat) (text : String) : Prop :=
  forall buffer, Writer.putAll? ⟨buffer, depth, true⟩ pieces = .ok ⟨buffer ++ text, depth, true⟩

theorem Writes.of_eq {pieces : List Piece} {depth : Nat} {text other : String}
    (written : Writes pieces depth text) (same : text = other) : Writes pieces depth other :=
  same ▸ written

theorem writes_nil (depth : Nat) : Writes [] depth "" := by
  intro buffer
  rw [String.append_empty]
  rfl

theorem Writes.append {first second : List Piece} {depth : Nat} {above below : String}
    (firstWritten : Writes first depth above) (secondWritten : Writes second depth below) :
    Writes (first ++ second) depth (above ++ below) := by
  intro buffer
  rw [Writer.putAll?_append, firstWritten, Fault.ok_bind, secondWritten, String.append_assoc]

/-- A block is what is written one level deeper. -/
theorem Writes.block {pieces : List Piece} {depth : Nat} {text : String}
    (inside : Writes pieces (depth + 1) text) : Writes (Piece.block pieces) depth text := by
  intro buffer
  rw [Writer.putAll?_block]
  change Writer.putAll? ⟨buffer, depth + 1, true⟩ pieces >>= Writer.exit? = _
  rw [inside]
  rfl

theorem writes_flatMap {Part : Type} {pieces : Part -> List Piece} {depth : Nat}
    {text : Part -> String} {parts : List Part}
    (each : forall part, part ∈ parts -> Writes (pieces part) depth (text part)) :
    Writes (parts.flatMap pieces) depth (String.join (parts.map text)) := by
  induction parts with
  | nil => exact writes_nil depth
  | cons part rest ih =>
      rw [List.forall_mem_cons] at each
      rw [List.flatMap_cons, List.map_cons, String.join_cons]
      exact each.1.append (ih each.2)

/-- Pieces that write lines. -/
def WritesLines (pieces : List Piece) (depth : Nat) (lines : List Line) : Prop :=
  Writes pieces depth (Line.joined lines)

theorem writesLines_nil (depth : Nat) : WritesLines [] depth [] :=
  writes_nil depth

theorem WritesLines.append {first second : List Piece} {depth : Nat} {above below : List Line}
    (firstLines : WritesLines first depth above) (secondLines : WritesLines second depth below) :
    WritesLines (first ++ second) depth (above ++ below) := by
  rw [WritesLines, Line.joined_append]
  exact Writes.append firstLines secondLines

/-- The lines of a block stand one level deeper. -/
theorem WritesLines.block {pieces : List Piece} {depth : Nat} {lines : List Line}
    (inside : WritesLines pieces (depth + 1) lines) :
    WritesLines (Piece.block pieces) depth lines :=
  Writes.block inside

/-- Fragments make up a line with the break behind the last of them. -/
theorem writesLines_texts (depth : Nat) (fragments : List String) (last : String) {line : String}
    (spelled : String.join fragments ++ last = line) (unbroken : Unbroken line) :
    WritesLines (texts (fragments ++ [last ++ "\n"])) depth [⟨depth, line⟩] := by
  rw [← spelled, unbroken_append_iff, unbroken_join_iff] at unbroken
  intro buffer
  rw [Writer.putAll?_line depth unbroken.2 unbroken.1, Line.joined, List.map_singleton,
    String.join_cons, String.join_nil, String.append_empty, spelled]

end Piece
end SceneMarkup

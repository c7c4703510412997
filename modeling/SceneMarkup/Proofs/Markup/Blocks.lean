import SceneMarkup.Markup.Page

namespace SceneMarkup

/-!
# Blocks come back to their depth

Writing pieces fails only where a block ends that was never begun.  A block is a
single value, so the mark that begins it and the mark that ends it come together;
the depth therefore comes back to what it was after every part, and no part ends a
block that it did not begin.  Everything that is written in front of the previews
can be written anywhere.
-/

namespace Writer

theorem putAll?_append (writer : Writer) (first second : List Piece) :
    writer.putAll? (first ++ second) =
      writer.putAll? first >>= fun between => between.putAll? second :=
  List.foldlM_append

/-- A block is entered, filled and left. -/
theorem putAll?_block (writer : Writer) (pieces : List Piece) :
    writer.putAll? (Piece.block pieces) = writer.enter.putAll? pieces >>= exit? := by
  rw [Piece.block, List.cons_append]
  change writer.enter.putAll? (pieces ++ [.exit]) = _
  rw [putAll?_append]
  congr 1
  funext last
  exact bind_pure _

end Writer

namespace Piece

/-- Pieces that can be written at any depth and leave it as it was. -/
def Balanced (pieces : List Piece) : Prop :=
  forall writer : Writer, Exists fun after =>
    writer.putAll? pieces = .ok after ∧ after.depth = writer.depth

theorem balanced_nil : Balanced [] :=
  fun writer => ⟨writer, rfl, rfl⟩

theorem balanced_append {first second : List Piece} (firstBalanced : Balanced first)
    (secondBalanced : Balanced second) : Balanced (first ++ second) := by
  intro writer
  rcases firstBalanced writer with ⟨between, firstWritten, firstDepth⟩
  rcases secondBalanced between with ⟨after, secondWritten, secondDepth⟩
  refine ⟨after, ?_, secondDepth.trans firstDepth⟩
  rw [Writer.putAll?_append, firstWritten]
  exact secondWritten

theorem depth_append (writer : Writer) (fragment : String) :
    (writer.append fragment).depth = writer.depth := by
  rw [Writer.append]
  split <;> rfl

theorem balanced_text (fragment : String) : Balanced [.text fragment] :=
  fun writer => ⟨writer.append fragment, rfl, depth_append writer fragment⟩

theorem balanced_texts (fragments : List String) : Balanced (texts fragments) := by
  induction fragments with
  | nil => exact balanced_nil
  | cons fragment rest ih => exact balanced_append (balanced_text fragment) ih

theorem balanced_attribute (text : String) : Balanced (Piece.attribute text) := by
  rw [Piece.attribute]
  split
  · exact balanced_nil
  · exact balanced_texts [" ", text]

/-- What a block holds is written one level deeper, where it leaves the depth for
the end of the block. -/
theorem balanced_block {pieces : List Piece} (inside : Balanced pieces) :
    Balanced (block pieces) := by
  intro writer
  rcases inside writer.enter with ⟨between, written, depth⟩
  refine ⟨{ between with depth := writer.depth }, ?_, rfl⟩
  rw [Writer.putAll?_block, written]
  change between.exit? = _
  rw [Writer.exit?, depth]
  rfl

theorem balanced_flatMap {Part : Type} (pieces : Part -> List Piece)
    (each : forall part, Balanced (pieces part)) (parts : List Part) :
    Balanced (parts.flatMap pieces) := by
  induction parts with
  | nil => exact balanced_nil
  | cons part rest ih => exact balanced_append (each part) ih

end Piece

open Piece

theorem Style.balanced_pieces (style : Style) : Balanced style.pieces :=
  balanced_flatMap _ (fun _ => balanced_texts _) _

theorem Piece.balanced_rule (selector : String) {body : List Piece} (inside : Balanced body) :
    Balanced (rule selector body) := by
  rw [rule]
  repeat' with_reducible apply balanced_append
  · exact balanced_texts _
  · exact balanced_block inside
  · exact balanced_text _

theorem Rule.balanced_pieces (rule : Rule) : Balanced rule.pieces := by
  apply balanced_rule
  apply balanced_append rule.appearance.balanced_pieces
  split
  · exact balanced_nil
  · repeat' with_reducible apply balanced_append
    · exact balanced_text _
    · exact balanced_block rule.layout.balanced_pieces
    · exact balanced_text _

theorem PreviewRule.balanced_pieces (rule : PreviewRule) : Balanced rule.pieces :=
  balanced_rule _ (balanced_texts _)

theorem Stylesheet.balanced_pieces (sheet : Stylesheet) : Balanced sheet.pieces := by
  have rules := balanced_flatMap _ Rule.balanced_pieces sheet.rules
  have previewRules := balanced_flatMap _ PreviewRule.balanced_pieces sheet.previewRules
  rw [pieces]
  repeat' with_reducible apply balanced_append
  · exact balanced_text _
  · exact balanced_block (balanced_append rules previewRules)
  · exact balanced_text _

theorem Declaration.balanced_pieces (options : Options) (declaration : Declaration) :
    Balanced (declaration.pieces options) := by
  rw [pieces]
  cases declaration.body with
  | image fileName =>
      repeat' with_reducible apply balanced_append
      · exact balanced_texts _
      · exact balanced_attribute _
      · exact balanced_attribute _
      · exact balanced_text _
  | box width height =>
      repeat' with_reducible apply balanced_append
      · exact balanced_texts _
      · exact balanced_attribute _
      · exact balanced_attribute _
      · exact balanced_attribute _
      · exact balanced_texts _
  | element name =>
      repeat' with_reducible apply balanced_append
      · exact balanced_texts _
      · exact balanced_attribute _
      · exact balanced_attribute _
      · exact balanced_text _
      · exact balanced_block (balanced_text _)
      · exact balanced_texts _

theorem TextValue.balanced_linePieces (value : TextValue) : Balanced value.linePieces := by
  cases value <;> exact balanced_texts _

theorem TextProp.balanced_pieces (prop : TextProp) : Balanced prop.pieces := by
  rw [pieces]
  cases prop.value <;> exact balanced_texts _

theorem PreviewReference.balanced_pieces (layout : String) (reference : PreviewReference) :
    Balanced (reference.pieces layout) := by
  rw [pieces]
  repeat' with_reducible apply balanced_append
  · exact balanced_texts _
  · exact balanced_flatMap _ TextProp.balanced_pieces _
  · exact balanced_text _

theorem frontPieces_balanced (options : Options) (imports : List ImportLine)
    (stylesheet : Stylesheet) (declarations : List Declaration) :
    Balanced (frontPieces options imports stylesheet declarations) := by
  have declared := balanced_flatMap _ (Declaration.balanced_pieces options) declarations
  rw [frontPieces]
  repeat' with_reducible apply balanced_append
  · exact balanced_text _
  · exact balanced_block (balanced_text _)
  · exact balanced_text _
  · exact balanced_flatMap _ (fun _ => balanced_texts _) _
  · exact balanced_text _
  · exact balanced_text _
  · exact stylesheet.balanced_pieces
  · exact balanced_text _
  · exact declared

end SceneMarkup

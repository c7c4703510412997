import SceneMarkup.Proofs.Index.DocumentOrder
import SceneMarkup.Proofs.Markup.Page
import SceneMarkup.Proofs.Markup.Unbroken

namespace SceneMarkup

open Piece

/-!
# Stacked previews

The previews of components are stacked below each other.  Where a preview begins is
summed up along the stack, and what is added for each preview is its height in whole
pixels, the very number that its rule states, with the padding.  So no rounding error can
pile up: where no height is negative, a preview begins below the end of every preview
before it, with the padding in between.

The sums are taken in whole numbers without bounds here.  They never exceed the span of
the whole stack, so machine words give the same numbers wherever that span fits.
-/

/-- A whole number of pixels, declared for a property. -/
def pixelDeclaration (property : String) (value : Int) : String :=
  property ++ ": " ++ Number.wholeString value ++ "px;"

namespace PreviewRule

/-- The height that a rule states, in pixels. -/
def pixelHeight (rule : PreviewRule) : Int :=
  Number.roundHalfUp rule.height

/-- A rule ends above another one, with the padding in between. -/
def EndsAbove (earlier later : PreviewRule) : Prop :=
  earlier.top + earlier.pixelHeight + previewPadding <= later.top

/-- The lines of a rule, the first of them at a depth. -/
def lines (depth : Nat) (rule : PreviewRule) : List Line :=
  [ ⟨depth, ":global(." ++ rule.className ++ ") \x7b"⟩,
    ⟨depth + 1, "position: absolute;"⟩,
    ⟨depth + 1, "left: 10px;"⟩,
    ⟨depth + 1, pixelDeclaration "top" rule.top⟩,
    ⟨depth + 1, pixelDeclaration "width" (Number.roundHalfUp rule.width)⟩,
    ⟨depth + 1, pixelDeclaration "height" rule.pixelHeight⟩,
    ⟨depth, "\x7d"⟩,
    ⟨depth, ""⟩ ]

end PreviewRule

/-! ## Rules as lines -/

theorem pixelDeclaration_unbroken {property : String} (plain : Unbroken property) (value : Int) :
    Unbroken (pixelDeclaration property value) := by
  simp only [pixelDeclaration, unbroken_append_iff]
  exact ⟨⟨⟨plain, rfl⟩, wholeString_unbroken value⟩, rfl⟩

/-- The brace that ends a rule, with a blank line behind it. -/
theorem writesLines_ruleEnd (depth : Nat) :
    WritesLines [.text "\x7d\n\n"] depth [⟨depth, "\x7d"⟩, ⟨depth, ""⟩] := by
  intro buffer
  have brace : Writer.beginsWithBreak "\x7d\n\n" = false := by decide
  have ends : Writer.endsLine "\x7d\n\n" = true := by decide
  change Except.ok (Writer.append ⟨buffer, depth, true⟩ "\x7d\n\n") = _
  rw [Writer.append_of_ne _ (by decide), brace, ends]
  simp [Line.joined, Line.full, String.join_cons, String.append_assoc]

theorem PreviewRule.writesLines_pieces {rule : PreviewRule} (plain : Unbroken rule.className)
    (depth : Nat) : WritesLines rule.pieces depth (rule.lines depth) := by
  have selector : WritesLines (texts [":global(", "." ++ rule.className, ") \x7b\n"])
      depth [⟨depth, ":global(." ++ rule.className ++ ") \x7b"⟩] := by
    apply writesLines_texts depth [":global(", "." ++ rule.className] ") \x7b"
    · simp only [String.join_cons, String.join_nil, String.append_empty, ← String.append_assoc]
      rfl
    · simp only [unbroken_append_iff]
      exact ⟨⟨rfl, plain⟩, rfl⟩
  have position : WritesLines (texts ["position: absolute;\n"]) (depth + 1)
      [⟨depth + 1, "position: absolute;"⟩] :=
    writesLines_texts (depth + 1) [] "position: absolute;" rfl rfl
  have left : WritesLines (texts ["left: ", Number.wholeString previewPadding, "px;\n"])
      (depth + 1) [⟨depth + 1, "left: 10px;"⟩] :=
    writesLines_texts (depth + 1) ["left: ", Number.wholeString previewPadding] "px;" rfl rfl
  have top : WritesLines (texts ["top: ", Number.wholeString rule.top, "px;\n"]) (depth + 1)
      [⟨depth + 1, pixelDeclaration "top" rule.top⟩] := by
    apply writesLines_texts (depth + 1) ["top: ", Number.wholeString rule.top] "px;" _
      (@pixelDeclaration_unbroken "top" rfl _)
    simp [pixelDeclaration, String.join_cons]
  have size : forall property length, Unbroken property ->
      WritesLines (texts [property ++ ": ", wholePixels length, ";\n"]) (depth + 1)
        [⟨depth + 1, pixelDeclaration property (Number.roundHalfUp length)⟩] := by
    intro property length spelled
    apply writesLines_texts (depth + 1) [property ++ ": ", wholePixels length] ";" _
      (pixelDeclaration_unbroken spelled _)
    simp [pixelDeclaration, wholePixels, String.join_cons, String.append_assoc]
  have body := (((position.append left).append top).append
    (size "width" rule.width rfl)).append (size "height" rule.height rfl)
  exact (selector.append body.block).append (writesLines_ruleEnd depth)

theorem PreviewRule.writesLines_flatMap {rules : List PreviewRule}
    (plain : forall rule, rule ∈ rules -> Unbroken rule.className) (depth : Nat) :
    WritesLines (rules.flatMap pieces) depth (rules.flatMap (lines depth)) := by
  induction rules with
  | nil => exact writesLines_nil depth
  | cons rule rest ih =>
      rw [List.forall_mem_cons] at plain
      exact (writesLines_pieces plain.1 depth).append (ih plain.2)

namespace Project

variable {project : Project}

/-! ## The stack -/

/-- The bounding box of a node, if it has one. -/
def boundingBox? (project : Project) (key : NodeKey) : Option Rect :=
  (project.node key).layer?.bind (·.boundingBox)

/-- The components that have a bounding box. -/
def boxedComponents (project : Project) : List NodeKey :=
  project.components.filter fun key => (project.boundingBox? key).isSome

/-- A rule places the preview of a component, as large as the component's bounding box. -/
structure PlacesPreview (project : Project) (component : NodeKey) (rule : PreviewRule) : Prop where
  className : rule.className = project.scene.previewClassName component
  boxed : Exists fun box => project.boundingBox? component = some box ∧
    rule.width = box.width ∧ rule.height = box.height

/-- The space that previews take in the stack, with the padding behind each of them. -/
def stackSpan (boxes : List (String × Rect)) : Int :=
  (boxes.map fun entry => Number.roundHalfUp entry.2.height + previewPadding).sum

/-- No box has a negative height, in whole pixels. -/
def Upright (boxes : List (String × Rect)) : Prop :=
  forall entry, entry ∈ boxes -> 0 <= Number.roundHalfUp entry.2.height

theorem stackSpan_cons (entry : String × Rect) (rest : List (String × Rect)) :
    stackSpan (entry :: rest) =
      Number.roundHalfUp entry.2.height + previewPadding + stackSpan rest := by
  simp [stackSpan]

theorem stackSpan_nonneg {boxes : List (String × Rect)} (upright : Upright boxes) :
    0 <= stackSpan boxes := by
  apply List.sum_nonneg
  intro space member
  rcases List.mem_map.mp member with ⟨entry, stacked, rfl⟩
  exact Int.add_nonneg (upright entry stacked) (by decide)

/-- Every preview lies between the top of the stack and its end. -/
theorem within_stackFrom {boxes : List (String × Rect)} (upright : Upright boxes) {top : Int}
    {rule : PreviewRule} (member : rule ∈ stackFrom top boxes) :
    top <= rule.top ∧
      rule.top + rule.pixelHeight + previewPadding <= top + stackSpan boxes := by
  induction boxes generalizing top with
  | nil => cases member
  | cons entry rest ih =>
      rw [Upright, List.forall_mem_cons] at upright
      have behind := stackSpan_nonneg upright.2
      have padded : 0 <= previewPadding := by decide
      rw [stackFrom, List.mem_cons] at member
      rw [stackSpan_cons]
      rcases member with first | later
      · have height : rule.pixelHeight = Number.roundHalfUp entry.2.height := by
          rw [first, PreviewRule.pixelHeight]
        have begins : rule.top = top := by rw [first]
        omega
      · have bounds := ih upright.2 later
        omega

/-- Each preview ends above all that are stacked behind it. -/
theorem pairwise_stackFrom {boxes : List (String × Rect)} (upright : Upright boxes)
    (top : Int) : (stackFrom top boxes).Pairwise PreviewRule.EndsAbove := by
  induction boxes generalizing top with
  | nil => exact .nil
  | cons entry rest ih =>
      rw [Upright, List.forall_mem_cons] at upright
      rw [stackFrom, List.pairwise_cons]
      refine ⟨?_, ih upright.2 _⟩
      intro later member
      have below := (within_stackFrom upright.2 member).1
      rwa [← Int.add_assoc] at below

/-- Stacking goes through the nodes that have a bounding box, one rule for each. -/
theorem forall₂_stackFrom (keys : List NodeKey) (top : Int) :
    List.Forall₂ project.PlacesPreview
      (keys.filter fun key => (project.boundingBox? key).isSome)
      (stackFrom top (keys.filterMap fun key =>
        (project.boundingBox? key).map fun box => (project.scene.previewClassName key, box))) := by
  induction keys generalizing top with
  | nil => exact .nil
  | cons key rest ih =>
      cases boxed : project.boundingBox? key with
      | none => simpa [boxed] using ih top
      | some box =>
          simp only [List.filter_cons, List.filterMap_cons, boxed, Option.isSome_some,
            Option.map_some, if_true, stackFrom]
          exact .cons ⟨rfl, box, boxed, rfl, rfl⟩ (ih _)

theorem previewRules_eq (previews : project.options.previews = true)
    (placed : project.options.absoluteLayout = true) :
    project.previewRules = stackFrom previewPadding project.previewBoxes := by
  rw [previewRules, previews, placed]
  rfl

theorem previewRules_of_stylesheet {sheet : Stylesheet}
    (styled : project.stylesheet.outcome = .ok sheet) :
    sheet.previewRules = project.previewRules := by
  rw [stylesheet] at styled
  rcases (Reported.outcome_bind_eq_ok_iff _ _ _).mp styled with ⟨levels, _, rest⟩
  rcases (Reported.outcome_bind_eq_ok_iff _ _ _).mp rest with ⟨rules, _, whole⟩
  rw [← Except.ok.inj whole]

/-- Rules place previews under classes, which are written without line breaks. -/
theorem unbroken_of_placesPreview {keys : List NodeKey} {rules : List PreviewRule}
    (placing : List.Forall₂ project.PlacesPreview keys rules) :
    forall rule, rule ∈ rules -> Unbroken rule.className := by
  induction placing with
  | nil => simp
  | cons first rest ih =>
      rw [List.forall_mem_cons, first.className]
      exact ⟨Scene.previewClassName_unbroken _ _, ih⟩

/-- Where previews are shown and placed and no height is negative, the components with a
bounding box have one rule each, in document order, and nothing else has one.  The first
preview begins 10 pixels from the top, and of any two the later one begins at least 10
pixels below the end of the earlier one.  No preview reaches beyond the span of the stack.
A translation writes these rules, and what it writes for them are the lines with these
numbers. -/
theorem previews_never_overlap (previews : project.options.previews = true)
    (placed : project.options.absoluteLayout = true) (upright : Upright project.previewBoxes) :
    InOrder project.boxedComponents ∧
      List.Forall₂ project.PlacesPreview project.boxedComponents project.previewRules ∧
      (forall first, project.previewRules.head? = some first -> first.top = 10) ∧
      project.previewRules.Pairwise (fun earlier later =>
        earlier.top + earlier.pixelHeight + 10 <= later.top) ∧
      (forall rule, rule ∈ project.previewRules -> 10 <= rule.top ∧
        rule.top + rule.pixelHeight + 10 <= 10 + stackSpan project.previewBoxes) ∧
      (forall markup, project.translate.outcome = .ok markup ->
        Exists fun page => project.page.outcome = .ok page ∧
          page.markup? project.options = .ok markup ∧
          page.stylesheet.previewRules = project.previewRules) ∧
      forall depth, WritesLines (project.previewRules.flatMap PreviewRule.pieces) depth
        (project.previewRules.flatMap (PreviewRule.lines depth)) := by
  have rules := previewRules_eq previews placed
  have placing : List.Forall₂ project.PlacesPreview project.boxedComponents
      project.previewRules := by
    rw [rules]
    exact forall₂_stackFrom project.components previewPadding
  refine ⟨(inOrder_components project).filter _, placing, ?_, ?_, ?_, ?_, ?_⟩
  · rw [rules]
    cases project.previewBoxes with
    | nil => simp [stackFrom]
    | cons entry rest =>
        rintro first ⟨rfl⟩
        rfl
  · rw [rules]
    exact pairwise_stackFrom upright previewPadding
  · intro rule member
    rw [rules] at member
    exact within_stackFrom upright member
  · intro markup translated
    rcases (translate_eq_ok_iff markup).mp translated with ⟨page, written, text⟩
    exact ⟨page, written, text, previewRules_of_stylesheet ((page_eq_ok_iff page).mp written).2.1⟩
  · exact PreviewRule.writesLines_flatMap (unbroken_of_placesPreview placing)

/-- A card that is half a pixel high besides whole ones and holds a component of its own,
a component without a bounding box, one whose height is rounded up to zero, and a bar. -/
def cardAndBars : Project where
  scene :=
    { main := .ofDocument (.ofRoot (.container "0:0" "Document" .document
        [ .container "1:1" "Card"
            (.component false { Layer.blank with boundingBox := some ⟨0, 0, 80, 40.5⟩ })
            [ .container "1:2" "Edge"
                (.component false { Layer.blank with boundingBox := some ⟨0, 0, 80, -0.25⟩ })
                [] ],
          .container "2:1" "Unplaced" (.component false .blank) [],
          .container "3:1" "Bar"
            (.component false { Layer.blank with boundingBox := some ⟨0, 60, 80, 20⟩ }) [] ]))
      imports := [] }
  options := ⟨true, true⟩
  outputPath := ""

/-- The half pixel of the card counts as a whole one wherever its height is needed. -/
theorem cardAndBars_stacked :
    Upright cardAndBars.previewBoxes ∧
      cardAndBars.previewRules.map (fun rule => (rule.top, rule.pixelHeight)) =
        [(10, 41), (61, 0), (71, 20)] ∧
      cardAndBars.previewRules.Pairwise (fun earlier later =>
        earlier.top + earlier.pixelHeight + 10 <= later.top) ∧
      Exists fun markup => cardAndBars.translate.outcome = .ok markup := by
  have upright : Upright cardAndBars.previewBoxes := by
    unfold Upright
    decide +kernel
  have stacked := (previews_never_overlap rfl rfl upright).2.2.2.1
  have translated : cardAndBars.page.outcome.toOption.any (fun _ => true) = true := by
    decide +kernel
  rcases exists_page_of_any translated with ⟨page, written, _⟩
  exact ⟨upright, by decide +kernel, stacked, exists_translate_of_page written⟩

end Project
end SceneMarkup

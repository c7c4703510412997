import SceneMarkup.Proofs.Export.Plan
import SceneMarkup.Proofs.Markup.Declarations
import SceneMarkup.Proofs.Markup.Stylesheet
import SceneMarkup.Proofs.Naming.ClassNames
import SceneMarkup.Proofs.Style.Cascade

namespace SceneMarkup

/-!
# Which referenced images are fetched

Markup refers to exported images at two places: a layer is declared as its
image, and a shape has its image as background.  Both choose the first export of
the layer that can be made, and the plan lists every export that can be made, so
they name a file of the plan.  They part where there is no such export.  Then a
layer is no image, while a shape still refers to an image of the default format
and size, which nobody plans.
-/

namespace Project

variable {project : Project}

/-! ## Chosen exports -/

theorem mem_of_supportedExport? {key : NodeKey} {setting : ExportSetting}
    (chosen : project.supportedExport? key = some setting) :
    setting ∈ (project.node key).exportSettings ∧ setting.isSupported = true :=
  ⟨List.mem_of_find?_eq_some chosen, List.find?_some chosen⟩

theorem isNode_of_isPlanned {key : NodeKey} {setting : ExportSetting}
    (planned : project.IsPlanned key setting) : project.scene.IsNode key ∧ key.file = .main := by
  rcases planned.1 with ⟨component, member, contains⟩
  exact ⟨contains.isNode ((mem_components_iff component).mp member).2.1,
    main_of_contains project member contains⟩

/-- The file that a layer inside a component shows is planned exactly if the layer
has an export that can be made.  The default file of one layer is no file of
another. -/
theorem shownExport_planned_iff {component key : NodeKey} (member : component ∈ project.components)
    (contains : project.scene.Contains component key) :
    (Exists fun other => Exists fun setting => project.IsPlanned other setting ∧
        project.scene.exportFileName key (project.shownExport key) =
          project.scene.exportFileName other setting) ↔
      (project.supportedExport? key).isSome = true := by
  constructor
  · rintro ⟨other, setting, planned, same⟩
    rcases isNode_of_isPlanned planned with ⟨otherValid, otherMain⟩
    have valid := contains.isNode ((mem_components_iff component).mp member).2.1
    have main := main_of_contains project member contains
    have equal := Scene.eq_of_exportFileName_eq valid otherValid (main.trans otherMain.symm) same
    rw [equal, supportedExport?, List.find?_isSome]
    exact ⟨setting, planned.2⟩
  · intro some
    rcases Option.isSome_iff_exists.mp some with ⟨setting, chosen⟩
    refine ⟨key, setting, ⟨⟨component, member, contains⟩, mem_of_supportedExport? chosen⟩, ?_⟩
    rw [shownExport, chosen, Option.getD_some]

/-! ## Images and backgrounds -/

/-- A layer declared as an image shows an export that is planned. -/
theorem isPlanned_of_image {declaration : Declaration} {fileName : String}
    (member : declaration ∈ project.declarations) (image : declaration.body = .image fileName) :
    Exists fun key => Exists fun setting => project.IsPlanned key setting ∧
      fileName = project.scene.exportFileName key setting := by
  rcases List.mem_map.mp member with ⟨key, declared, same⟩
  have body : project.declarationBody key = .image fileName := by
    rw [← image, ← same]
    rfl
  rcases (mem_declaredKeys_iff key).mp declared with ⟨main, owner, ownerMember, covers, _⟩
  have valid := isNode_of_mem_declaredKeys declared
  rcases (mem_components_iff owner).mp ownerMember with ⟨ownerMain, _, _⟩
  have contains : project.scene.Contains owner key := by
    rw [Scene.contains_iff valid, main]
    exact ⟨ownerMain, covers⟩
  rw [declarationBody] at body
  cases chosen : project.supportedExport? key with
  | none =>
      rw [chosen] at body
      dsimp only at body
      split at body <;> cases body
  | some setting =>
      rw [chosen] at body
      refine ⟨key, setting, ⟨⟨owner, ownerMember, contains⟩, mem_of_supportedExport? chosen⟩, ?_⟩
      exact (DeclarationBody.image.inj body).symm

/-- The reference of a shape to its image. -/
def shapeBackground (project : Project) (key : NodeKey) : String :=
  "url(./" ++ project.scene.exportFileName key (project.shownExport key) ++ ")"

/-- A shape states its image as background. -/
theorem get?_background_of_shape {key : NodeKey} (shape : (project.node key).isShape = true) :
    (project.nodeStyle key).get? "background" = some (project.shapeBackground key) := by
  have drawn : Exists fun layer => (project.node key).layer? = some layer := by
    cases node : project.node key with
    | container id name kind children =>
        rw [node] at shape
        cases shape
    | leaf id name kind => exact ⟨kind.layer, rfl⟩
  rcases drawn with ⟨layer, drawn⟩
  have placed :
      (placementDeclarations project.options layer).reverse.lookup "background" = none := by
    unfold placementDeclarations
    split
    · split <;> rfl
    · rfl
  rw [nodeStyle, OrderedMap.get?_ofList, nodeDeclarations, drawn]
  dsimp only
  rw [if_pos shape, List.reverse_cons, List.lookup_append, placed]
  rfl

/-- Whatever a shape overrides, its rule has its own image as background, if any. -/
theorem background_of_rule {sheet : Stylesheet} {rule : Rule} {value : String}
    (styled : project.stylesheet.outcome = .ok sheet) (member : rule ∈ sheet.rules)
    (shape : (project.node rule.key).isShape = true)
    (declared : rule.appearance.get? "background" = some value) :
    value = project.shapeBackground rule.key := by
  rcases mem_rules_of_stylesheet styled member with ⟨_, style, ruled, appearance, _⟩
  rcases (overrideStyle_eq_ok_iff style).mp ruled with ⟨chain, _, same⟩
  have plain : Style.isLayout "background" = false := by decide
  rw [appearance, Style.appearance, OrderedMap.get?_filter, plain, same,
    styleOver_eq_subtractAll] at declared
  simp only [Bool.not_false, if_true] at declared
  rcases Style.get?_subtractAll_of_stated (get?_background_of_shape shape)
    (chain.map project.nodeStyle) with kept | dropped
  · rw [kept] at declared
    exact (Option.some.inj declared).symm
  · rw [dropped] at declared
    cases declared

/-- Where a document has markup, its exports can be planned.  Every image that is
declared is planned, and the image in the background of a shape is exactly if the
shape has an export that can be made; otherwise it is the default one. -/
theorem referenced_images_planned {root : Node} {imports : Imports} {options : Options}
    {outputPath markup : String} (built : build root imports options outputPath = .ok project)
    (translated : project.translate.outcome = .ok markup) :
    Exists fun page => Exists fun plan => project.page.outcome = .ok page ∧
      page.markup? project.options = .ok markup ∧ (planExports root).outcome = .ok plan ∧
      (forall declaration, declaration ∈ page.declarations -> forall fileName,
        declaration.body = .image fileName -> fileName ∈ plan.fileNames) ∧
      forall rule, rule ∈ page.stylesheet.rules -> (project.node rule.key).isShape = true ->
        forall value, rule.appearance.get? "background" = some value ->
          Exists fun fileName => value = "url(./" ++ fileName ++ ")" ∧
            (fileName ∈ plan.fileNames ↔ (project.supportedExport? rule.key).isSome = true) ∧
            (project.supportedExport? rule.key = none ->
              fileName = project.scene.exportFileName rule.key .defaultRaster) := by
  rcases (translate_eq_ok_iff markup).mp translated with ⟨page, written, text⟩
  rcases exists_plan built with ⟨plan, planned, listed⟩
  rcases (page_eq_ok_iff page).mp written with ⟨_, styled, _, _, declarations⟩
  refine ⟨page, plan, written, text, planned, ?_, ?_⟩
  · intro declaration member fileName image
    rw [declarations] at member
    exact (listed fileName).mpr (isPlanned_of_image member image)
  · intro rule member shape value declared
    rcases (mem_rules_of_stylesheet styled member).1 with ⟨component, componentMember, contains⟩
    have shown := background_of_rule styled member shape declared
    refine ⟨_, shown, ?_, ?_⟩
    · rw [listed]
      exact shownExport_planned_iff componentMember contains
    · intro none
      rw [shownExport, none]
      rfl

/-! ## A card with icons -/

/-- A document with one card. -/
def cardDocument (children : List Node) : Node :=
  .container "0:0" "Document" .document
    [.container "1:1" "Card" (.component false .blank) children]

/-- A photo and an icon, both with an export. -/
def exportedIcon : List Node :=
  [ .leaf "1:2" "Photo" (.rectangle none { Layer.blank with exportSettings := [.scaled .png 1.0] }),
    .leaf "1:3" "Icon"
      (.shape .vector { Layer.blank with exportSettings := [.scaled .svg 1.0] }) ]

/-- The image of the photo and the background of the icon are planned. -/
theorem exportedIcon_planned :
    Exists fun page => Exists fun plan =>
      (singleComponent exportedIcon).page.outcome = .ok page ∧
      (planExports (cardDocument exportedIcon)).outcome = .ok plan ∧
      (Exists fun declaration => declaration ∈ page.declarations ∧ Exists fun fileName =>
        declaration.body = .image fileName ∧ fileName ∈ plan.fileNames) ∧
      Exists fun rule => rule ∈ page.stylesheet.rules ∧ Exists fun fileName =>
        rule.appearance.get? "background" = some ("url(./" ++ fileName ++ ")") ∧
          fileName ∈ plan.fileNames := by
  have built : build (cardDocument exportedIcon) OrderedMap.empty ⟨false, true⟩ "" =
      .ok (singleComponent exportedIcon) := rfl
  have evaluated : (singleComponent exportedIcon).page.outcome.toOption.any (fun page =>
      page.declarations.any (fun declaration => declaration.body matches .image _) &&
        page.stylesheet.rules.any fun rule =>
          rule.key == ⟨.main, 3⟩ && (rule.appearance.get? "background").isSome) = true := by
    decide +kernel
  have chosen : ((singleComponent exportedIcon).supportedExport? ⟨.main, 3⟩).isSome = true := by
    decide +kernel
  rcases exists_page_of_any evaluated with ⟨known, made, passes⟩
  rcases exists_translate_of_page made with ⟨markup, translated⟩
  rcases referenced_images_planned built translated with
    ⟨page, plan, written, _, planned, images, backgrounds⟩
  rw [Except.ok.inj (made.symm.trans written), Bool.and_eq_true, List.any_eq_true,
    List.any_eq_true] at passes
  rcases passes with ⟨⟨declaration, member, isImage⟩, rule, ruleMember, shown⟩
  rw [Bool.and_eq_true, beq_iff_eq, Option.isSome_iff_exists] at shown
  rcases shown with ⟨key, value, stated⟩
  refine ⟨page, plan, written, planned, ⟨declaration, member, ?_⟩, rule, ruleMember, ?_⟩
  · cases body : declaration.body with
    | image fileName => exact ⟨fileName, rfl, images declaration member fileName body⟩
    | box width height =>
        rw [body] at isImage
        cases isImage
    | element name =>
        rw [body] at isImage
        cases isImage
  · have shape : ((singleComponent exportedIcon).node rule.key).isShape = true := by
      rw [key]
      decide +kernel
    rcases backgrounds rule ruleMember shape value stated with ⟨fileName, same, listed, _⟩
    rw [key] at listed
    exact ⟨fileName, same ▸ stated, listed.mpr chosen⟩

/-- A star that wants no export. -/
def bareStar : List Node :=
  [.leaf "1:2" "Star" (.shape .star .blank)]

/-- The rule of the star refers to its default image, and nothing is planned. -/
theorem bareStar_background_not_planned :
    (Exists fun markup => (singleComponent bareStar).translate.outcome = .ok markup) ∧
    build (cardDocument bareStar) OrderedMap.empty ⟨false, true⟩ "" =
      .ok (singleComponent bareStar) ∧
    Exists fun page => Exists fun plan =>
      (singleComponent bareStar).page.outcome = .ok page ∧
      (planExports (cardDocument bareStar)).outcome = .ok plan ∧ plan.fileNames = [] ∧
      Exists fun rule => rule ∈ page.stylesheet.rules ∧
        ((singleComponent bareStar).node rule.key).isShape = true ∧
        rule.appearance.get? "background" =
          some ("url(./"
            ++ (singleComponent bareStar).scene.exportFileName rule.key .defaultRaster ++ ")") := by
  have evaluated : (singleComponent bareStar).page.outcome.toOption.any (fun page =>
      page.stylesheet.rules.any fun rule =>
        rule.key == ⟨.main, 2⟩ && (rule.appearance.get? "background").isSome) = true := by
    decide +kernel
  have nothing : (planExports (cardDocument bareStar)).outcome.toOption.any
      (fun plan => plan.fileNames.isEmpty) = true := by
    decide +kernel
  rcases exists_page_of_any evaluated with ⟨page, written, passes⟩
  rw [List.any_eq_true] at passes
  rcases passes with ⟨rule, member, shown⟩
  rw [Bool.and_eq_true, beq_iff_eq, Option.isSome_iff_exists] at shown
  rcases shown with ⟨key, value, stated⟩
  have shape : ((singleComponent bareStar).node rule.key).isShape = true := by
    rw [key]
    decide +kernel
  have unexported : (singleComponent bareStar).supportedExport? rule.key = none := by
    rw [key]
    rfl
  have styled := ((page_eq_ok_iff page).mp written).2.1
  have background := background_of_rule styled member shape stated
  rw [shapeBackground, shownExport, unexported] at background
  refine ⟨exists_translate_of_page written, rfl, page, ?_⟩
  cases planned : (planExports (cardDocument bareStar)).outcome with
  | error fault =>
      rw [planned] at nothing
      cases nothing
  | ok plan =>
      rw [planned] at nothing
      refine ⟨plan, written, rfl, List.isEmpty_iff.mp nothing, rule, member, shape, ?_⟩
      rw [stated, background]
      rfl

end Project
end SceneMarkup

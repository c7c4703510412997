import SceneMarkup.Proofs.Markup.PreviewParts

namespace SceneMarkup

open Piece

/-!
# Pages and their text

A page holds everything that is written for one file as a value, previews
included.  Writing a page never fails, since every part of it is balanced.  Whether
a project has markup is thus decided when its page is made, and its markup is the
text of the page.  Statements about the markup of a file can therefore speak of its
page.

The page itself is made in steps.  Taking them apart gives the values from which
it is put together.
-/

/-- Everything that is written for one file. -/
structure Page where
  imports : List ImportLine
  stylesheet : Stylesheet
  declarations : List Declaration
  previews : Option (List Preview)

/-- What is written for the previews that are wanted. -/
def previewPieces (options : Options) (previews : Option (List Preview)) : List Piece :=
  match previews with
  | none => []
  | some previews =>
      [.text "<!-- PREVIEWS -->\n\n"] ++ previews.flatMap (Preview.pieces options)

/-- A page in full. -/
def Page.pieces (options : Options) (page : Page) : List Piece :=
  frontPieces options page.imports page.stylesheet page.declarations
    ++ previewPieces options page.previews

namespace Project

/-- The previews of a project, where they are wanted. -/
def wantedPreviews (project : Project) : Reported (Option (List Preview)) :=
  if project.options.previews then do
    let previews ← Reported.ofExcept project.previews
    Reported.announce (.previewsWritten previews.length)
    return some previews
  else return none

/-- Everything that is written for a project. -/
def page (project : Project) : Reported Page := do
  let instances ← Reported.ofExcept project.resolveInstances
  Reported.announce (.instancesResolved instances)
  let imports := project.importLines
  Reported.announce (.importsWritten imports.length)
  let stylesheet ← project.stylesheet
  Reported.announce (.rulesWritten stylesheet.rules.length)
  let declarations := project.declarations
  Reported.raise project.declarationWarnings
  Reported.announce (.declarationsWritten declarations.length)
  let previews ← project.wantedPreviews
  return ⟨imports, stylesheet, declarations, previews⟩

end Project

theorem previewPieces_balanced (options : Options) :
    (previews : Option (List Preview)) -> Balanced (previewPieces options previews)
  | none => balanced_nil
  | some _ =>
      balanced_append (balanced_text _) (balanced_flatMap _ (Preview.balanced_pieces options) _)

theorem Page.balanced_pieces (options : Options) (page : Page) :
    Balanced (page.pieces options) := by
  rw [pieces]
  exact balanced_append (frontPieces_balanced _ _ _ _) (previewPieces_balanced _ _)

/-! ## From a project to its page -/

/-- The text of a page. -/
def Page.markup? (options : Options) (page : Page) : Except Fault String :=
  (Writer.empty.putAll? (page.pieces options)).bind Writer.finish?

/-- Every page has a text. -/
theorem Page.exists_markup (options : Options) (page : Page) :
    Exists fun markup => page.markup? options = .ok markup := by
  rcases page.balanced_pieces options Writer.empty with ⟨writer, put, depth⟩
  refine ⟨writer.buffer, ?_⟩
  rw [markup?, put]
  change writer.finish? = _
  rw [Writer.finish?]
  exact if_pos depth

/-- The previews of a page, none where they are not wanted. -/
def Page.allPreviews (page : Page) : List Preview :=
  page.previews.getD []

namespace Project

variable {project : Project}

/-- Writing the previews step by step gives what they are in full. -/
theorem writeWantedPreviews_eq (writer : Writer) :
    project.writeWantedPreviews writer =
      project.wantedPreviews >>= fun previews =>
        Reported.ofExcept (writer.putAll? (previewPieces project.options previews)) := by
  rw [writeWantedPreviews, wantedPreviews]
  split
  · rcases balanced_text "<!-- PREVIEWS -->\n\n" writer with ⟨titled, put, _⟩
    simp only [put, writePreviews_eq, previews]
    cases made : project.components.mapM project.preview with
    | error fault => rfl
    | ok list =>
        have counted := ((Fault.mapM_eq_ok_iff _ _ _).mp made).length_eq
        have balanced := balanced_flatMap _ (Preview.balanced_pieces project.options) list
        rcases balanced titled with ⟨after, written, _⟩
        have whole : writer.putAll? (previewPieces project.options (some list)) = .ok after := by
          rw [previewPieces, Writer.putAll?_append, put]
          exact written
        simp only [counted, Fault.ok_bind, written, Reported.ofExcept_ok, pure_bind, bind_assoc,
          whole]
  · rfl

/-- A page is made and then written. -/
theorem translate_eq (project : Project) :
    project.translate = (do
      let page ← project.page
      let writer ← Reported.ofExcept (Writer.empty.putAll? (page.pieces project.options))
      Reported.announce (.finished writer.buffer.utf8ByteSize)
      Reported.ofExcept writer.finish?) := by
  -- What stands in front of the previews is written before any fault in them.
  have fronts (stylesheet : Stylesheet) :=
    frontPieces_balanced project.options project.importLines stylesheet project.declarations
      Writer.empty
  choose front put _ using fronts
  simp only [translate, page, bind_assoc, pure_bind, Page.pieces, Writer.putAll?_append,
    writeWantedPreviews_eq, put, Fault.ok_bind, Reported.ofExcept_ok]

/-- The markup of a project is the text of its page. -/
theorem translate_eq_ok_iff (markup : String) :
    project.translate.outcome = .ok markup ↔
      Exists fun page => project.page.outcome = .ok page ∧
        page.markup? project.options = .ok markup := by
  rw [translate_eq]
  simp only [Reported.outcome_bind_eq_ok_iff, Reported.outcome_ofExcept,
    Reported.outcome_announce, Page.markup?]
  constructor
  · rintro ⟨page, written, writer, put, _, _, finished⟩
    refine ⟨page, written, ?_⟩
    rw [put]
    exact finished
  · rintro ⟨page, written, text⟩
    rcases page.balanced_pieces project.options Writer.empty with ⟨writer, put, _⟩
    rw [put] at text
    exact ⟨page, written, writer, put, (), trivial, text⟩

/-- A project has markup exactly when it has a page. -/
theorem exists_translate_iff :
    (Exists fun markup => project.translate.outcome = .ok markup) ↔
      project.page.outcome.isOk = true := by
  constructor
  · intro ended
    rcases ended with ⟨markup, translated⟩
    rcases (translate_eq_ok_iff markup).mp translated with ⟨page, written, _⟩
    rw [written]
    rfl
  · intro ended
    cases written : project.page.outcome with
    | error fault =>
        rw [written] at ended
        cases ended
    | ok page =>
        rcases page.exists_markup project.options with ⟨markup, text⟩
        exact ⟨markup, (translate_eq_ok_iff markup).mpr ⟨page, written, text⟩⟩

/-- A page that passes a test is a page. -/
theorem exists_translate_of_page {page : Page} (written : project.page.outcome = .ok page) :
    Exists fun markup => project.translate.outcome = .ok markup := by
  apply exists_translate_iff.mpr
  rw [written]
  rfl

theorem exists_page_of_any {passes : Page -> Bool}
    (tested : project.page.outcome.toOption.any passes = true) :
    Exists fun page => project.page.outcome = .ok page ∧ passes page = true := by
  cases written : project.page.outcome with
  | error fault =>
      rw [written] at tested
      cases tested
  | ok page =>
      rw [written] at tested
      exact ⟨page, rfl, tested⟩

theorem wantedPreviews_eq_ok_iff (previews : Option (List Preview)) :
    project.wantedPreviews.outcome = .ok previews ↔
      if project.options.previews then
        Exists fun list => project.previews = .ok list ∧ previews = some list
      else previews = none := by
  rw [wantedPreviews]
  split
  · simp only [Reported.outcome_bind_eq_ok_iff, Reported.outcome_ofExcept,
      Reported.outcome_announce, Reported.outcome_pure, Except.ok.injEq]
    constructor
    · rintro ⟨list, made, _, _, same⟩
      exact ⟨list, made, same.symm⟩
    · rintro ⟨list, made, same⟩
      exact ⟨list, made, (), trivial, same.symm⟩
  · rw [Reported.outcome_pure, Except.ok.injEq]
    exact eq_comm

/-- A page is made once every instance has its component, and from a stylesheet
and the previews that are wanted. -/
theorem page_eq_ok_iff (page : Page) :
    project.page.outcome = .ok page ↔
      (Exists fun instances => project.resolveInstances = .ok instances) ∧
        project.stylesheet.outcome = .ok page.stylesheet ∧
        project.wantedPreviews.outcome = .ok page.previews ∧
        page.imports = project.importLines ∧ page.declarations = project.declarations := by
  rw [Project.page]
  simp only [Reported.outcome_bind_eq_ok_iff, Reported.outcome_ofExcept,
    Reported.outcome_announce, Reported.outcome_raise, Reported.outcome_pure, Except.ok.injEq]
  constructor
  · rintro ⟨instances, resolved, _, _, _, _, sheet, styled, _, _, _, _, _, _, previews, wanted, same⟩
    subst same
    exact ⟨⟨instances, resolved⟩, styled, wanted, rfl, rfl⟩
  · rintro ⟨⟨instances, resolved⟩, styled, wanted, imports, declarations⟩
    refine ⟨instances, resolved, (), trivial, (), trivial, _, styled, (), trivial, (), trivial,
      (), trivial, _, wanted, ?_⟩
    rw [← imports, ← declarations]

/-- A page imports every file under the alias of its place. -/
theorem getElem?_importLines_iff {place : Nat} {line : ImportLine} :
    project.importLines[place]? = some line ↔
      Exists fun indexed => project.scene.imports[place]? = some indexed ∧
        line = ⟨Scene.moduleAlias place, Path.relativeImport project.outputPath indexed.path⟩ := by
  rw [importLines, Scene.importPaths, List.getElem?_map, List.getElem?_zipIdx, List.getElem?_map]
  cases project.scene.imports[place]? with
  | none => simp
  | some indexed => simp [eq_comm]

theorem preview_eq_ok_iff (key : NodeKey) (preview : Preview) :
    project.preview key = .ok preview ↔
      project.previewNodesFrom (key.index + 1) (project.node key).children = .ok preview.children ∧
        project.previewReference key key false = .ok preview.usage ∧
        preview.tag = project.scene.tagName key ∧
        preview.previewTag = project.scene.previewTagName key := by
  rw [Project.preview, Fault.bind_eq_ok_iff]
  constructor
  · rintro ⟨children, below, rest⟩
    rcases (Fault.bind_eq_ok_iff _ _ _).mp rest with ⟨usage, referred, made⟩
    have same := Except.ok.inj made
    rw [← same]
    exact ⟨below, referred, rfl, rfl⟩
  · rintro ⟨below, referred, tag, previewTag⟩
    refine ⟨_, below, (Fault.bind_eq_ok_iff _ _ _).mpr ⟨_, referred, ?_⟩⟩
    rw [← tag, ← previewTag]
    rfl

/-- A page has the previews of all components, where previews are wanted. -/
theorem allPreviews_of_page {page : Page} (written : project.page.outcome = .ok page) :
    if project.options.previews then
      List.Forall₂ (fun key preview => project.preview key = .ok preview) project.components
        page.allPreviews
    else page.allPreviews = [] := by
  have wanted := ((page_eq_ok_iff page).mp written).2.2.1
  rw [wantedPreviews_eq_ok_iff] at wanted
  rw [Page.allPreviews]
  split
  · rename_i on
    rw [if_pos on] at wanted
    rcases wanted with ⟨previews, made, listed⟩
    rw [listed]
    exact (Fault.mapM_eq_ok_iff _ _ _).mp made
  · rename_i off
    rw [if_neg off] at wanted
    rw [wanted]
    rfl

/-- Every preview of a page is that of a component. -/
theorem exists_component_of_mem {page : Page} (written : project.page.outcome = .ok page)
    {preview : Preview} (listed : preview ∈ page.allPreviews) :
    project.options.previews = true ∧ Exists fun component =>
      component ∈ project.components ∧ project.preview component = .ok preview := by
  have all := allPreviews_of_page written
  split at all
  · rename_i wanted
    exact ⟨wanted, (Fault.mem_of_mapM_eq_ok all preview).mp listed⟩
  · rw [all] at listed
    cases listed

/-- What holds of the preview of every component holds along the page. -/
theorem forall₂_allPreviews_of_page {page : Page} (written : project.page.outcome = .ok page)
    (wanted : project.options.previews = true) {Holds : NodeKey -> Preview -> Prop}
    (each : forall key, key ∈ project.components -> forall preview,
      project.preview key = .ok preview -> Holds key preview) :
    List.Forall₂ Holds project.components page.allPreviews := by
  have made := allPreviews_of_page written
  rw [if_pos wanted, List.forall₂_iff_zip] at made
  rw [List.forall₂_iff_zip]
  refine ⟨made.1, ?_⟩
  intro key preview paired
  exact each key (List.of_mem_zip paired).1 preview (made.2 paired)

theorem mem_allPreviews_iff {page : Page} (written : project.page.outcome = .ok page)
    (wanted : project.options.previews = true) (preview : Preview) :
    preview ∈ page.allPreviews ↔
      Exists fun key => key ∈ project.components ∧ project.preview key = .ok preview := by
  have made := allPreviews_of_page written
  rw [if_pos wanted] at made
  exact Fault.mem_of_mapM_eq_ok made preview

theorem map_previewTag_eq {keys : List NodeKey} {previews : List Preview}
    (made : List.Forall₂ (fun key preview => project.preview key = .ok preview) keys previews) :
    previews.map (·.previewTag) = keys.map project.scene.previewTagName := by
  induction made with
  | nil => rfl
  | cons first rest ih =>
      rw [List.map_cons, List.map_cons, ih, ((preview_eq_ok_iff _ _).mp first).2.2.2]

/-- The previews of a page are declared under names of its components. -/
theorem previewTags_of_page {page : Page} (written : project.page.outcome = .ok page) :
    page.allPreviews.map (·.previewTag) =
      if project.options.previews then project.components.map project.scene.previewTagName
      else [] := by
  have made := allPreviews_of_page written
  split
  · rename_i on
    rw [if_pos on] at made
    exact map_previewTag_eq made
  · rename_i off
    rw [if_neg off] at made
    rw [made]
    rfl

end Project
end SceneMarkup

import SceneMarkup.Proofs.Index.Depth
import SceneMarkup.Proofs.Markup.References
import SceneMarkup.Proofs.Naming.Documents

namespace SceneMarkup
namespace Project

/-!
# Links between separately written files

The markup of a file refers to previews that the markup of another file declares.
The two are written independently: one run has the other file among its imports,
the other run has it as its main document, with imports of its own.  The links hold
because names belong to documents.  Every node of an imported file is called what it
is called when its file is written.  The tag of its preview has an alias in front,
and under just this alias the page imports the file.  All of this can be read off the
two markups: the alias in the line of the import, the tag in the line of a reference,
and the name without the alias in the line that declares the preview.
-/

/-- The nodes of an imported file are there when it is the main document of another
project, and are called the same.  The tags of previews differ in the alias. -/
structure NamesAgree (project : Project) (place : Nat) (own : Project) : Prop where
  nodes : forall index, project.scene.IsNode ⟨.imported place, index⟩ ↔
    own.scene.IsNode ⟨.main, index⟩
  names : forall index,
    Scene.SameNames project.scene ⟨.imported place, index⟩ own.scene ⟨.main, index⟩
  previewTags : forall index, project.scene.previewTagName ⟨.imported place, index⟩ =
    Scene.moduleAlias place ++ ":" ++ own.scene.previewTagName ⟨.main, index⟩

/-- A page imports a file under the alias of its place, and its text says so behind the
imports of the files in front. -/
structure ImportsFile (project : Project) (page : Page) (place : Nat) (path : String) :
    Prop where
  imported : page.imports[place]? =
    some ⟨Scene.moduleAlias place, Path.relativeImport project.outputPath path⟩
  written : Exists fun behind => page.text project.options =
    String.join
      [ Page.heading, String.join ((page.imports.take place).map ImportLine.text),
        String.join ["<import as=\"", Scene.moduleAlias place, "\" src=\"",
          Path.relativeImport project.outputPath path, "\" />\n"],
        behind ]

/-- A page refers to the page of an imported file: whatever refers to a component there
names, behind the alias, a preview that the text of the other page declares. -/
structure LinksTo (project : Project) (page : Page) (place : Nat) (own : Project)
    (ownPage : Page) : Prop where
  declared : forall preview, preview ∈ page.allPreviews ->
    forall target, target ∈ preview.references ->
      (Exists fun line => line ∈ preview.lines project.options ∧
        Exists fun rest => line.text = String.join ["<", target.tag, rest]) ∧
      Exists fun referrer => Exists fun component => project.RefersTo referrer component ∧
        target.tag = project.scene.previewTagName component ∧
        (component.file = .imported place -> (project.node component).isComponent = true ->
          Exists fun ownPreview => ownPreview ∈ ownPage.allPreviews ∧
            target.tag = Scene.moduleAlias place ++ ":" ++ ownPreview.previewTag ∧
            DeclaresAs (ownPreview.text own.options) ownPreview.previewTag)

variable {project : Project}

theorem getElem?_importLines {root : Node} {imports : Imports} {options : Options}
    {outputPath path : String} {place : Nat} {file : ImportedFile}
    (imported : imports.entries[place]? = some (path, file)) :
    (importLines ⟨Scene.ofTrees root imports, options, outputPath⟩)[place]? =
      some ⟨Scene.moduleAlias place, Path.relativeImport outputPath path⟩ :=
  getElem?_importLines_iff.mpr ⟨_, Scene.getElem?_imports imported, rfl⟩

theorem namesAgree_of_named_eq {own : Project} {place : Nat}
    (same : project.scene.named (.imported place) = own.scene.named .main) :
    project.NamesAgree place own where
  nodes index := by
    have document : project.scene.document (.imported place) = own.scene.document .main :=
      congrArg _ same
    rw [Scene.IsNode, Scene.IsNode, document]
  names := Scene.sameNames_of_named_eq same
  previewTags index := by
    rw [Scene.previewTagName_eq, Scene.previewTagName_eq,
      (Scene.sameNames_of_named_eq same index).ownPreviewTagName, Scene.qualified, Scene.qualified]

theorem importsFile_of_importLines {place : Nat} {path : String} {page : Page}
    (imported : project.importLines[place]? =
      some ⟨Scene.moduleAlias place, Path.relativeImport project.outputPath path⟩)
    (written : project.page.outcome = .ok page) : project.ImportsFile page place path := by
  rw [← ((page_eq_ok_iff page).mp written).2.2.2.1] at imported
  have around := page.text_around_import project.options imported
  rw [ImportLine.text] at around
  exact ⟨imported, around⟩

/-- What refers to a component of an imported file names a preview of that file. -/
theorem linksTo_of_namesAgree {own : Project} {place : Nat} {page ownPage : Page}
    (agree : project.NamesAgree place own)
    (written : project.page.outcome = .ok page) (ownWritten : own.page.outcome = .ok ownPage)
    (ownPreviews : own.options.previews = true) : project.LinksTo page place own ownPage where
  declared := by
    intro preview listed target inside
    rcases exists_component_of_mem written listed with ⟨_, owner, member, made⟩
    rcases referrer_of_mem_references member made inside with
      ⟨referrer, component, contains, refers, referred⟩
    have tag := ((previewReference_eq_ok_iff _ _ _ _).mp referred).2.1
    refine ⟨preview.exists_line_of_mem_references project.options inside, referrer, component,
      refers, tag, ?_⟩
    intro elsewhere isComponent
    rcases component with ⟨file, index⟩
    cases elsewhere
    have ownerValid := ((mem_components_iff owner).mp member).2.1
    have valid := isNode_of_refersTo (contains.isNode ownerValid) refers
    have ownMember : (⟨.main, index⟩ : NodeKey) ∈ own.components := by
      refine (mem_components_iff _).mpr ⟨rfl, (agree.nodes index).mp valid, ?_⟩
      rw [node, ← (agree.names index).node]
      exact isComponent
    have ownAll := allPreviews_of_page ownWritten
    rw [if_pos ownPreviews] at ownAll
    rcases Fault.exists_of_mapM_eq_ok ownAll ownMember with ⟨ownPreview, ownListed, ownMade⟩
    refine ⟨ownPreview, ownListed, ?_, declaresAs_preview ownMember ownMade own.options⟩
    rw [tag, agree.previewTags, ((preview_eq_ok_iff _ _).mp ownMade).2.2.2]

/-- A file that a project imports can be written by itself, whatever it imports
then.  All its nodes are called in the one project what they are called in the
other.  The markup of the project imports the file under the alias of its place, and
where the file has markup with previews, the one markup links to the other. -/
theorem imported_names_agree {root : Node} {imports : Imports} {options : Options}
    {outputPath : String} (built : build root imports options outputPath = .ok project)
    {place : Nat} {path : String} {file : ImportedFile}
    (imported : imports.entries[place]? = some (path, file))
    (isDocument : file.document.type = .document) (ownImports : Imports) (ownOptions : Options)
    (ownPath : String) :
    ((forall entry, entry ∈ ownImports.entries -> entry.2.document.height <= Node.depthLimit) ->
      Exists fun own => build file.document ownImports ownOptions ownPath = .ok own) ∧
    forall own, build file.document ownImports ownOptions ownPath = .ok own ->
      project.NamesAgree place own ∧
      forall markup, project.translate.outcome = .ok markup ->
        Exists fun page => project.page.outcome = .ok page ∧
          page.markup? project.options = .ok markup ∧ markup = page.text project.options ∧
          project.ImportsFile page place path ∧
          forall ownMarkup, own.translate.outcome = .ok ownMarkup -> ownOptions.previews = true ->
            Exists fun ownPage => own.page.outcome = .ok ownPage ∧
              ownPage.markup? own.options = .ok ownMarkup ∧
              ownMarkup = ownPage.text own.options ∧ project.LinksTo page place own ownPage := by
  rcases (build_eq_ok_iff _ _ _ _ _).mp built with ⟨indexable, same⟩
  constructor
  · intro ownFits
    have listed : file.document ∈ imports.entries.map (·.2.document) :=
      List.mem_map.mpr ⟨_, List.mem_of_getElem? imported, rfl⟩
    have fits := indexable.fits file.document (List.mem_cons_of_mem _ listed)
    have ownIndexable : Scene.Indexable file.document ownImports := by
      refine ⟨isDocument, ?_⟩
      rw [List.forall_mem_cons, List.forall_mem_map]
      exact ⟨fits, ownFits⟩
    have ownBuilds := build_eq_ok_iff file.document ownImports ownOptions ownPath
    exact ⟨_, (ownBuilds _).mpr ⟨ownIndexable, rfl⟩⟩
  · intro own ownBuilt
    have ownSame := ((build_eq_ok_iff _ _ _ _ _).mp ownBuilt).2
    subst same ownSame
    have agree : NamesAgree ⟨Scene.ofTrees root imports, options, outputPath⟩ place
        ⟨Scene.ofTrees file.document ownImports, ownOptions, ownPath⟩ :=
      namesAgree_of_named_eq (Scene.named_imported imported)
    refine ⟨agree, fun markup translated => ?_⟩
    rcases exists_page_of_translate translated with ⟨page, written, text, spelled⟩
    refine ⟨page, written, text, spelled,
      importsFile_of_importLines (getElem?_importLines imported) written, ?_⟩
    intro ownMarkup ownTranslated ownPreviews
    rcases exists_page_of_translate ownTranslated with ⟨ownPage, ownWritten, ownText, ownSpelled⟩
    exact ⟨ownPage, ownWritten, ownText, ownSpelled,
      linksTo_of_namesAgree agree written ownWritten ownPreviews⟩

/-- A library with a button. -/
def buttonLibrary : Node :=
  .container "0:0" "Document" .document
    [ .container "9:9" "Button" (.component false .blank)
        [.leaf "9:10" "Label" (.text "Remote" .blank .blank)] ]

/-- A card that places the button of a library, which it knows under another id. -/
def buttonCard : Node :=
  .container "0:0" "Document" .document
    [ .container "1:1" "Card" (.component false .blank)
        [ .container "1:2" "Button" (.placement "5:5" false .blank)
            [.leaf "I1:2;5:6" "Label" (.text "Go" .blank .blank)] ] ]

/-- The button of the library is called the same in the card and by itself.  The markup
of the card begins with the import of the library, and links to that of the library. -/
theorem buttonCard_links_to_library :
    let library : ImportedFile := ⟨OrderedMap.ofList [("5:5", "9:9")], buttonLibrary⟩
    Exists fun project => Exists fun own =>
      build buttonCard (OrderedMap.ofList [("lib/library.pc", library)]) .standard "app.pc" =
          .ok project ∧
        build buttonLibrary OrderedMap.empty .standard "lib/library.pc" = .ok own ∧
        project.NamesAgree 0 own ∧
        Exists fun page => Exists fun ownPage =>
          project.translate.outcome = .ok (page.text project.options) ∧
            own.translate.outcome = .ok (ownPage.text own.options) ∧
            project.ImportsFile page 0 "lib/library.pc" ∧
            project.LinksTo page 0 own ownPage ∧
            (page.allPreviews.flatMap Preview.references).map (·.tag) =
              ["module0:_Preview_Button"] ∧
            ownPage.allPreviews.map (·.previewTag) = ["_Preview_Button"] := by
  intro library
  let imports := OrderedMap.ofList [("lib/library.pc", library)]
  let project : Project := ⟨Scene.ofTrees buttonCard imports, .standard, "app.pc"⟩
  let own : Project :=
    ⟨Scene.ofTrees buttonLibrary OrderedMap.empty, .standard, "lib/library.pc"⟩
  have built : build buttonCard imports .standard "app.pc" = .ok project :=
    (build_eq_ok_iff _ _ _ _ _).mpr ⟨⟨rfl, by decide⟩, rfl⟩
  have ownBuilt : build buttonLibrary OrderedMap.empty .standard "lib/library.pc" = .ok own :=
    (build_eq_ok_iff _ _ _ _ _).mpr ⟨⟨rfl, by decide⟩, rfl⟩
  have evaluated : project.page.outcome.toOption.any (fun page =>
      (page.allPreviews.flatMap Preview.references).map (·.tag) ==
        ["module0:_Preview_Button"]) = true := by
    decide +kernel
  have ownEvaluated : own.page.outcome.toOption.any (fun page =>
      page.allPreviews.map (·.previewTag) == ["_Preview_Button"]) = true := by
    decide +kernel
  rcases exists_page_of_any evaluated with ⟨known, made, tags⟩
  rcases exists_page_of_any ownEvaluated with ⟨ownKnown, ownMade, ownTags⟩
  rcases exists_translate_of_page made with ⟨markup, translated⟩
  rcases exists_translate_of_page ownMade with ⟨ownMarkup, ownTranslated⟩
  have imported : imports.entries[0]? = some ("lib/library.pc", library) := rfl
  rcases (imported_names_agree built imported rfl OrderedMap.empty .standard
    "lib/library.pc").2 own ownBuilt with ⟨agree, links⟩
  rcases links markup translated with ⟨page, written, _, spelled, importing, linking⟩
  rcases linking ownMarkup ownTranslated rfl with ⟨ownPage, ownWritten, _, ownSpelled, linked⟩
  rw [Except.ok.inj (made.symm.trans written)] at tags
  rw [Except.ok.inj (ownMade.symm.trans ownWritten)] at ownTags
  exact ⟨project, own, built, ownBuilt, agree, page, ownPage, spelled ▸ translated,
    ownSpelled ▸ ownTranslated, importing, linked, beq_iff_eq.mp tags, beq_iff_eq.mp ownTags⟩

end Project
end SceneMarkup

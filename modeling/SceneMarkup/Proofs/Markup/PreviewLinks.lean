import SceneMarkup.Proofs.Confinement
import SceneMarkup.Proofs.Index.PlacedComponents
import SceneMarkup.Proofs.Markup.References
import SceneMarkup.Proofs.Naming.AcrossFiles

namespace SceneMarkup

/-!
# Where references between previews lead

A preview refers to the previews of what its instances lead to.  An id leads to a
node, whatever its type, and only components have previews.  An instance that leads
to a frame is taken like any other, and the tag written for it is one that nobody
declares.

The main result says that this is the only way for a reference to miss.  A tag that
belongs to a component of the document is the tag of a preview on the page.  One
that belongs to a component of an imported file has the alias in front under which
the page imports that file.  The tags tell the nodes of all files apart, so no other
preview can answer in place of one that is missing.
-/

namespace Project

variable {project : Project}

/-- An instance leads to a node, which may be of any type. -/
def Leads (project : Project) (key : NodeKey) : Prop :=
  Exists fun componentId => Exists fun component =>
    (project.node key).componentId? = some componentId ∧
      project.scene.Finds componentId component

/-- An instance of the main document that is resolved at all leads to what it is
resolved to. -/
theorem finds_of_resolveComponent {key component : NodeKey} (main : key.file = .main)
    (resolved : project.resolveComponent key = .ok component) :
    Exists fun componentId => (project.node key).componentId? = some componentId ∧
      project.scene.Finds componentId component := by
  cases placed : (project.node key).componentId? with
  | none =>
      rw [resolveComponent, placed] at resolved
      cases resolved
  | some componentId =>
      refine ⟨componentId, rfl, ?_⟩
      rcases (resolveComponent_eq_ok_iff placed component).mp resolved with
        ⟨imported, _⟩ | ⟨_, finds⟩
      · exact absurd main imported
      · exact finds

theorem main_of_mem_instances {key : NodeKey} (member : key ∈ project.instances) :
    key.file = .main := by
  rw [instances, List.mem_filter, List.mem_map] at member
  rcases member.1 with ⟨_, _, same⟩
  rw [← same]

/-- Resolving the instances of the main document succeeds exactly if each of them
leads to a node. -/
theorem exists_resolveInstances_iff :
    (Exists fun count => project.resolveInstances = .ok count) ↔
      forall key, key ∈ project.instances -> project.Leads key := by
  rw [(resolveInstances_goesThrough project).exists_ok_iff]
  apply forall₂_congr
  intro key member
  have main := main_of_mem_instances member
  constructor
  · rintro ⟨component, placed⟩
    rcases finds_of_resolveComponent main placed with ⟨componentId, named, finds⟩
    exact ⟨componentId, component, named, finds⟩
  · rintro ⟨componentId, component, named, finds⟩
    have across : project.LooksAcross key componentId := Or.inl main
    exact ⟨component, (resolveComponent_eq_ok_iff named component).mpr (Or.inr ⟨across, finds⟩)⟩

theorem hasFile_of_refersTo {referrer component : NodeKey} (main : referrer.file = .main)
    (refers : project.RefersTo referrer component) : project.scene.HasFile component.file := by
  rcases refers with ⟨_, resolved⟩ | ⟨_, same⟩
  · rcases finds_of_resolveComponent main resolved with ⟨_, _, finds⟩
    exact finds.hasFile
  · rw [same, main]
    trivial

/-! ## Tags of previews -/

/-- A tag is that of a preview: of one that the page declares or, behind the name of
an import, of a component in the imported file. -/
def NamesPreview (project : Project) (page : Page) (tag : String) : Prop :=
  tag ∈ page.allPreviews.map Preview.previewTag ∨
    Exists fun place => Exists fun line => Exists fun own : NodeKey =>
      page.imports[place]? = some line ∧
        own.file = .imported place ∧ project.scene.IsNode own ∧
        (project.node own).isComponent = true ∧
        tag = line.name ++ ":" ++ project.scene.ownPreviewTagName own

/-- The tag that refers to the preview of a node is that of a preview exactly if the
node is a component. -/
theorem namesPreview_previewTagName_iff {page : Page} (written : project.page.outcome = .ok page)
    (wanted : project.options.previews = true) {key : NodeKey} (valid : project.scene.IsNode key)
    (there : project.scene.HasFile key.file) :
    project.NamesPreview page (project.scene.previewTagName key) ↔
      (project.node key).isComponent = true := by
  have tags := previewTags_of_page written
  rw [if_pos wanted] at tags
  have imports := ((page_eq_ok_iff page).mp written).2.2.2.1
  rw [NamesPreview, tags, imports]
  constructor
  · -- Tags tell the nodes of all files apart, so the preview found is that of the node.
    rintro (declared | ⟨place, line, own, imported, ownFile, ownValid, isComponent, same⟩)
    · rcases List.mem_map.mp declared with ⟨owner, member, same⟩
      rcases (mem_components_iff owner).mp member with ⟨_, ownerValid, isComponent⟩
      rw [← Scene.previewTagName_injective ownerValid valid same]
      exact isComponent
    · rcases getElem?_importLines_iff.mp imported with ⟨_, _, line⟩
      have ownTag : project.scene.previewTagName own = project.scene.previewTagName key := by
        rw [same, line, Scene.previewTagName_eq, ownFile, Scene.qualified]
      rw [← Scene.previewTagName_injective ownValid valid ownTag]
      exact isComponent
  · intro isComponent
    cases file : key.file with
    | main =>
        left
        exact List.mem_map_of_mem ((mem_components_iff key).mpr ⟨file, valid, isComponent⟩)
    | imported place =>
        right
        rw [file] at there
        have listed := List.getElem?_eq_getElem there
        refine ⟨place, _, key, getElem?_importLines_iff.mpr ⟨_, listed, rfl⟩, file, valid,
          isComponent, ?_⟩
        rw [Scene.previewTagName_eq, file, Scene.qualified]

/-! ## References -/

/-- Every reference inside the preview of a component comes from an instance or a
component inside and has the tag of the node that this leads to, which is that of a
preview exactly if the node is a component. -/
def ReferencesNamePreviews (project : Project) (page : Page) (owner : NodeKey)
    (preview : Preview) : Prop :=
  forall target, target ∈ preview.references ->
    Exists fun referrer => Exists fun component => project.scene.Contains owner referrer ∧
      project.RefersTo referrer component ∧
      target.tag = project.scene.previewTagName component ∧
      (project.NamesPreview page target.tag ↔ (project.node component).isComponent = true)

theorem referencesNamePreviews_of_preview {page : Page} (written : project.page.outcome = .ok page)
    (wanted : project.options.previews = true) {owner : NodeKey} {preview : Preview}
    (member : owner ∈ project.components) (made : project.preview owner = .ok preview) :
    project.ReferencesNamePreviews page owner preview := by
  rcases (mem_components_iff owner).mp member with ⟨ownerMain, ownerValid, _⟩
  intro target listed
  rcases referrer_of_mem_references member made listed with
    ⟨referrer, component, contains, refers, referred⟩
  have referrerValid := contains.isNode ownerValid
  have main : referrer.file = .main := by
    rw [← ((Scene.contains_iff referrerValid owner).mp contains).1]
    exact ownerMain
  have tag := ((previewReference_eq_ok_iff _ _ _ _).mp referred).2.1
  refine ⟨referrer, component, contains, refers, tag, ?_⟩
  rw [tag]
  exact namesPreview_previewTagName_iff written wanted (isNode_of_refersTo referrerValid refers)
    (hasFile_of_refersTo main refers)

/-- Where a project has markup with previews, every instance of the document leads to
a node, and what a reference inside a preview names is a preview exactly if the
referrer leads to a component. -/
theorem references_name_previews_iff {markup : String}
    (translated : project.translate.outcome = .ok markup)
    (wanted : project.options.previews = true) :
    (forall key, key ∈ project.instances -> project.Leads key) ∧
    Exists fun page => project.page.outcome = .ok page ∧
      page.markup? project.options = .ok markup ∧
      List.Forall₂ (project.ReferencesNamePreviews page) project.components page.allPreviews := by
  rcases (translate_eq_ok_iff markup).mp translated with ⟨page, written, text⟩
  have leads := exists_resolveInstances_iff.mp ((page_eq_ok_iff page).mp written).1
  refine ⟨leads, page, written, text, forall₂_allPreviews_of_page written wanted ?_⟩
  intro owner member preview made
  exact referencesNamePreviews_of_preview written wanted member made

/-- A card with an instance that leads to a banner of some kind. -/
def cardWithBanner (kind : Container) : Project where
  scene := .ofTrees
    (.container "0:0" "Document" .document
      [ .container "1:1" "Banner" kind [],
        .container "2:1" "Card" (.component false .blank)
          [.container "2:2" "Top" (.placement "1:1" false .blank) []] ])
    OrderedMap.empty
  options := ⟨false, true⟩
  outputPath := "app.pc"

/-- Where the banner is a component, the reference names its preview. -/
theorem bannerComponent_preview_named :
    Exists fun page => (cardWithBanner (.component false .blank)).page.outcome = .ok page ∧
      List.Forall₂ ((cardWithBanner (.component false .blank)).ReferencesNamePreviews page)
        (cardWithBanner (.component false .blank)).components page.allPreviews ∧
      (page.allPreviews.flatMap Preview.references).map (·.tag) = ["_Preview_Banner"] ∧
      page.allPreviews.map (·.previewTag) = ["_Preview_Banner", "_Preview_Card"] := by
  let project := cardWithBanner (.component false .blank)
  have evaluated : project.page.outcome.toOption.any (fun page =>
      decide ((page.allPreviews.flatMap Preview.references).map (·.tag) = ["_Preview_Banner"] ∧
        page.allPreviews.map (·.previewTag) = ["_Preview_Banner", "_Preview_Card"])) = true := by
    decide +kernel
  rcases exists_page_of_any evaluated with ⟨known, made, passes⟩
  rw [decide_eq_true_eq] at passes
  rcases exists_translate_of_page made with ⟨markup, translated⟩
  rcases references_name_previews_iff translated rfl with ⟨_, page, written, _, named⟩
  rw [Except.ok.inj (made.symm.trans written)] at passes
  exact ⟨page, written, named, passes⟩

/-- Where the banner is a frame, the card is translated all the same, and the
reference in its preview names none. -/
theorem bannerFrame_preview_missing :
    ¬ forall (project : Project) (markup : String), project.translate.outcome = .ok markup ->
      project.options.previews = true -> forall page, project.page.outcome = .ok page ->
        forall preview, preview ∈ page.allPreviews -> forall target, target ∈ preview.references ->
          project.NamesPreview page target.tag := by
  intro always
  let project := cardWithBanner (.frame false .blank)
  have evaluated : project.page.outcome.toOption.any (fun page =>
      decide ((page.allPreviews.flatMap Preview.references).map (·.tag) = ["_Preview_Banner"] ∧
        page.allPreviews.map (·.previewTag) = ["_Preview_Card"] ∧ page.imports = [])) = true := by
    decide +kernel
  rcases exists_page_of_any evaluated with ⟨page, written, passes⟩
  rw [decide_eq_true_eq] at passes
  rcases passes with ⟨tags, declared, noImports⟩
  rcases exists_translate_of_page written with ⟨markup, translated⟩
  have listed : "_Preview_Banner" ∈
      (page.allPreviews.flatMap Preview.references).map (·.tag) := by
    rw [tags]
    exact List.mem_cons_self
  rcases List.mem_map.mp listed with ⟨target, inside, tag⟩
  rcases List.mem_flatMap.mp inside with ⟨preview, member, target_inside⟩
  rcases always project markup translated rfl page written preview member target target_inside with
    previewed | ⟨place, line, own, imported, _⟩
  · rw [declared, tag] at previewed
    exact absurd previewed (by decide)
  · rw [noImports] at imported
    cases imported

end Project
end SceneMarkup

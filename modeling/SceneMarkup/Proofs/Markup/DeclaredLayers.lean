import SceneMarkup.Proofs.Markup.PreviewTags

namespace SceneMarkup
namespace Project

/-!
# Each layer is declared where it should be

Every component starts a walk of its own, also a component inside another one, below an
exported layer or inside an instance.  No layer is lost and none comes twice, however
these nest: a walk leaves out exactly those layers of its component that something above
them hides, and what it does find belongs to no other component.

The declarations stand in the order of the document twice over.  Components come in
that order, and so do the layers of each component.
-/

variable {project : Project}

/-- A node is a layer of a component, and nothing above it keeps it from being
declared. -/
def HasOpenLayer (project : Project) (component key : NodeKey) : Prop :=
  (project.node component).isComponent = true ∧ project.HasLayer component key ∧
    project.IsInPlainSight component key

/-- What a component declares is a layer of it. -/
theorem hasLayer_of_declares {component key : NodeKey} (member : component ∈ project.components)
    (main : key.file = .main) (declared : project.Declares component key) :
    project.HasLayer component key := by
  refine (hasLayer_iff member key).mpr ⟨main, declared.1, ?_⟩
  intro place later reaches
  have visited := (declared.2 place (Nat.le_of_succ_le later) reaches).1
  rw [declares_eq_true_iff] at visited
  rw [showsElement_eq_true_iff]
  refine ⟨⟨visited.2.2.1, ?_⟩, fun _ => rfl⟩
  rw [Bool.eq_false_iff]
  intro another
  exact Nat.ne_of_gt later (visited.2.2.2 another)

theorem declares_iff_hasOpenLayer {component key : NodeKey}
    (member : component ∈ project.components) :
    key.file = .main ∧ project.Declares component key ↔ project.HasOpenLayer component key := by
  have isComponent := ((mem_components_iff component).mp member).2.2
  constructor
  · rintro ⟨main, declared⟩
    have layer := hasLayer_of_declares member main declared
    exact ⟨isComponent, layer, (declares_iff_of_hasLayer member layer).mp declared⟩
  · rintro ⟨_, layer, plain⟩
    exact ⟨((hasLayer_iff member key).mp layer).1, (declares_iff_of_hasLayer member layer).mpr plain⟩

/-- What has a layer of the main document is a component there. -/
theorem mem_components_of_hasOpenLayer {component key : NodeKey} (main : key.file = .main)
    (layer : project.HasOpenLayer component key) : component ∈ project.components := by
  have valid : project.scene.IsNode component := by
    by_contra outside
    have isComponent := layer.1
    rw [node, Scene.node, Document.node_eq_blank outside] at isComponent
    cases isComponent
  have keyValid := layer.2.1.1.isNode valid
  have sameFile := ((Scene.contains_iff keyValid component).mp layer.2.1.1).1
  exact (mem_components_iff component).mpr ⟨sameFile.trans main, valid, layer.1⟩

/-- The layers that are declared are the open layers of components. -/
theorem mem_declaredKeys_iff_hasOpenLayer (key : NodeKey) :
    key ∈ project.declaredKeys ↔
      key.file = .main ∧ Exists fun component => project.HasOpenLayer component key := by
  rw [mem_declaredKeys_iff]
  constructor
  · rintro ⟨main, component, isMember, declared⟩
    exact ⟨main, component, (declares_iff_hasOpenLayer isMember).mp ⟨main, declared⟩⟩
  · rintro ⟨main, component, layer⟩
    have isMember := mem_components_of_hasOpenLayer main layer
    exact ⟨main, component, isMember, ((declares_iff_hasOpenLayer isMember).mpr layer).2⟩

open Classical in
/-- A component declares its open layers, in the order of its subtree. -/
theorem declaredFrom_eq_filter {component : NodeKey} (member : component ∈ project.components) :
    project.declaredFrom component [component] =
      (project.scene.subtree component).filter fun key =>
        decide (project.HasOpenLayer component key) := by
  rcases (mem_components_iff component).mp member with ⟨main, valid, _⟩
  rw [declaredFrom_eq_walkAt main valid, ← node_of_main main, Scene.subtree, main]
  rw [Scene.IsNode, main] at valid
  rw [Document.walkAt_eq_filter valid, List.filter_map]
  congr 1
  apply List.filter_congr
  intro index inside
  have covers := (Document.mem_subtree_iff _ component.index index).mp inside
  rw [Function.comp, decide_eq_decide, ← declares_iff_hasOpenLayer member, Declares]
  exact ⟨fun free => ⟨rfl, covers, free⟩, fun declared => declared.2.2⟩

/-- All components of a document, in order. -/
theorem components_eq_filter (project : Project) :
    project.components = (project.scene.subtree ⟨.main, 0⟩).filter fun key =>
      (project.node key).isComponent := by
  have held := (project.scene.document .main).holds_root
  rw [components, Document.components, Scene.subtree, held.subtree_eq, List.filter_map,
    Document.size_eq, List.range_eq_range']
  rfl

theorem map_key_declarations (project : Project) :
    project.declarations.map (·.key) = project.declaredKeys := by
  rw [declarations, List.map_map]
  exact List.map_id _

open Classical in
theorem declaredKeys_eq_flatMap (project : Project) :
    project.declaredKeys =
      ((project.scene.subtree ⟨.main, 0⟩).filter fun key =>
          (project.node key).isComponent).flatMap (fun component =>
        (project.scene.subtree component).filter fun key =>
          decide (project.HasOpenLayer component key)) := by
  rw [← components_eq_filter]
  apply List.flatMap_congr
  intro component isMember
  exact declaredFrom_eq_filter isMember

/-- The names under which the texts of declarations declare layers, in order. -/
def writtenNames (project : Project) : List String :=
  project.declarations.map fun declaration => firstQuoted (declaration.text project.options)

theorem writtenNames_eq (project : Project) :
    project.writtenNames = project.declaredKeys.map project.scene.tagName := by
  rw [writtenNames, declarations, List.map_map]
  apply List.map_congr_left
  intro key _
  exact (declaresAs_declaration project project.options key).read

/-- The name of a node is written exactly if the node is declared. -/
theorem mem_writtenNames_iff {key : NodeKey} (main : key.file = .main)
    (valid : project.scene.IsNode key) :
    project.scene.tagName key ∈ project.writtenNames ↔ key ∈ project.declaredKeys := by
  rw [writtenNames_eq, List.mem_map]
  constructor
  · rintro ⟨other, member, same⟩
    have otherMain := ((mem_declaredKeys_iff other).mp member).1
    have here := Scene.tagName_injective (isNode_of_mem_declaredKeys member) valid
      (otherMain.trans main.symm) same
    exact here ▸ member
  · intro member
    exact ⟨key, member, rfl⟩

theorem nodup_writtenNames (project : Project) : project.writtenNames.Nodup := by
  rw [writtenNames_eq]
  apply nodup_map_declaredKeys
  intro first second firstValid secondValid sameFile same
  exact Scene.tagName_injective firstValid secondValid sameFile same

theorem count_eq_one_iff_of_nodup {Value : Type} [BEq Value] [LawfulBEq Value]
    {values : List Value} (distinct : values.Nodup) (value : Value) :
    values.count value = 1 ↔ value ∈ values := by
  refine ⟨fun once => ?_, List.count_eq_one_of_mem distinct⟩
  rw [← List.count_pos_iff, once]
  exact Nat.one_pos

open Classical in
/-- The declarations of a document are the open layers of its components, component
after component.  A node is declared once if it is such a layer, and never otherwise;
so its name stands once, or never, among the names under which the texts of the
declarations declare something.  Each text gives the layer its class as well.  It is
these texts that are written for the declarations, and they stand in the markup. -/
theorem declarations_eq_open_layers (project : Project) :
    project.declarations.map (·.key) =
        ((project.scene.subtree ⟨.main, 0⟩).filter fun key =>
            (project.node key).isComponent).flatMap (fun component =>
          (project.scene.subtree component).filter fun key =>
            decide (project.HasOpenLayer component key)) ∧
      (forall key,
        ((project.declarations.map (·.key)).count key = 1 ↔
          key.file = .main ∧ Exists fun component => project.HasOpenLayer component key) ∧
        ((project.declarations.map (·.key)).count key = 0 ↔
          ¬ (key.file = .main ∧ Exists fun component => project.HasOpenLayer component key))) ∧
      (forall key, key.file = .main -> project.scene.IsNode key ->
        (project.writtenNames.count (project.scene.tagName key) = 1 ↔
          Exists fun component => project.HasOpenLayer component key) ∧
        (project.writtenNames.count (project.scene.tagName key) = 0 ↔
          ¬ Exists fun component => project.HasOpenLayer component key)) ∧
      (forall declaration, declaration ∈ project.declarations ->
        declaration.tag = project.scene.tagName declaration.key ∧
        declaration.className = project.scene.className declaration.key ∧
        DeclaresAs (declaration.text project.options) declaration.tag ∧
        GivesClass (declaration.text project.options) declaration.className) ∧
      Piece.Writes (project.declarations.flatMap (Declaration.pieces project.options)) 0
        (String.join (project.declarations.map (Declaration.text project.options))) ∧
      forall markup, project.translate.outcome = .ok markup ->
        Exists fun page => project.page.outcome = .ok page ∧
          page.markup? project.options = .ok markup ∧ markup = page.text project.options ∧
          page.declarations = project.declarations := by
  have declared (key : NodeKey) : key ∈ project.declaredKeys ↔
      key.file = .main ∧ Exists fun component => project.HasOpenLayer component key :=
    mem_declaredKeys_iff_hasOpenLayer key
  rw [map_key_declarations]
  refine ⟨declaredKeys_eq_flatMap project, ?_, ?_, ?_, ?_, ?_⟩
  · intro key
    rw [← declared key, count_eq_one_iff_of_nodup (nodup_declaredKeys project),
      List.count_eq_zero]
    exact ⟨Iff.rfl, Iff.rfl⟩
  · intro key main valid
    have written := (mem_writtenNames_iff main valid).trans ((declared key).trans
      (and_iff_right main))
    rw [← written, count_eq_one_iff_of_nodup (nodup_writtenNames project), List.count_eq_zero]
    exact ⟨Iff.rfl, Iff.rfl⟩
  · intro declaration listed
    rcases List.mem_map.mp listed with ⟨key, _, rfl⟩
    exact ⟨rfl, rfl, declaresAs_declaration project _ key, givesClass_declaration project _ key⟩
  · exact Piece.writes_flatMap fun declaration _ => declaration.writes_pieces project.options
  · intro markup translated
    rcases exists_page_of_translate translated with ⟨page, written, text, same⟩
    exact ⟨page, written, text, same, ((page_eq_ok_iff page).mp written).2.2.2.2⟩

/-- A card with an exported banner, which has a dot and a badge on it, and with an
instance of the badge, which has a tag inside. -/
def bannerCard : Project :=
  singleComponent
    [ .container "1:2" "Banner"
        (.frame false { Layer.blank with exportSettings := [.scaled .png 1.0] })
        [ .leaf "1:3" "Dot" (.rectangle none .blank),
          .container "2:1" "Badge" (.component false .blank)
            [.leaf "2:2" "Label" (.text "x" .blank .blank)] ],
      .container "1:4" "Place" (.placement "2:1" false .blank)
        [.container "3:1" "Tag" (.component false .blank) []] ]

/-- The badge below the exported banner and the tag inside the instance have
declarations in the markup, the dot on the banner and the instance have none. -/
theorem bannerCard_declares :
    Exists fun page => bannerCard.page.outcome = .ok page ∧
      bannerCard.translate.outcome = .ok (page.text bannerCard.options) ∧
      page.declarations.map (fun declaration =>
          firstQuoted (declaration.text bannerCard.options)) =
        ["Card", "Card_Banner", "Card_Badge", "Card_Badge_Label", "Card_Tag"] ∧
      ¬ Exists fun component => bannerCard.HasOpenLayer component ⟨.main, 3⟩ := by
  have ended : bannerCard.page.outcome.isOk = true := by decide +kernel
  have names : bannerCard.writtenNames =
      ["Card", "Card_Banner", "Card_Badge", "Card_Badge_Label", "Card_Tag"] := by
    rw [writtenNames_eq]
    decide +kernel
  have dot : bannerCard.scene.tagName ⟨.main, 3⟩ = "Card_Dot" := by decide +kernel
  rcases exists_translate_iff.mpr ended with ⟨markup, translated⟩
  rcases declarations_eq_open_layers bannerCard with ⟨_, _, counts, _, _, stands⟩
  rcases stands markup translated with ⟨page, written, _, same, listed⟩
  refine ⟨page, written, same ▸ translated, ?_, ?_⟩
  · rw [listed]
    exact names
  · apply (counts ⟨.main, 3⟩ rfl (by decide +kernel)).2.mp
    rw [names, dot]
    decide

end Project
end SceneMarkup

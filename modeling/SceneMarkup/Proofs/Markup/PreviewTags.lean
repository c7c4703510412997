import SceneMarkup.Proofs.Markup.Declarations

namespace SceneMarkup

/-!
# The elements of a preview and their declarations

A preview is made of the layers of its component, each of them under the name of
its own declaration.  Previews and declarations are found by two walks, and the
walks do not stop at the same layers.  Both stop at instances and at components.
The declarations also stop below a layer with an export that can be made, since
what it contains is part of the image, and at documents and pages; a preview goes
on in both cases.

The main result says exactly where this matters.  Every element of every preview
is declared, and declared once, if and only if no layer of a component lies below
an export or in a stray document or page inside the component.
-/

/-! ## Tags -/

namespace PreviewNode

mutual

/-- The tags of the elements in a part of a preview.  A reference is no element:
it names another preview. -/
def elementTags : PreviewNode -> List String
  | .reference _ => []
  | .text tag _ => [tag]
  | .element tag children => tag :: elementTagsOf children

/-- The tags of the elements in several parts. -/
def elementTagsOf : List PreviewNode -> List String
  | [] => []
  | node :: rest => elementTags node ++ elementTagsOf rest

end

end PreviewNode

/-- The tags of the elements that a preview is made of, its own element first. -/
def Preview.elementTags (preview : Preview) : List String :=
  preview.tag :: PreviewNode.elementTagsOf preview.children

namespace Project

variable {project : Project}

/-- Whether a preview shows a node as an element of its own. -/
def showsElement (_ : Nat) (node : Node) : Bool :=
  ! (node.isInstance || node.isComponent)

theorem showsElement_eq_true_iff (index : Nat) (node : Node) :
    showsElement index node = true ↔ node.isInstance = false ∧ node.isComponent = false := by
  rw [showsElement, Bool.not_eq_true', Bool.or_eq_false_iff]

theorem showsElement_leaf (index : Nat) (id name : String) (kind : Leaf) :
    showsElement index (.leaf id name kind) = true := by
  cases kind with
  | shape outline layer => cases outline <;> rfl
  | rectangle cornerRadius layer => rfl
  | text characters style layer => rfl

theorem previewNodeAt_of_shown {index : Nat} {id name : String} {kind : Container}
    {children : List Node} (shown : showsElement index (.container id name kind children) = true) :
    project.previewNodeAt index (.container id name kind children) =
      (project.previewNodesFrom (index + 1) children >>= fun below =>
        return .element (project.scene.tagName ⟨.main, index⟩) below) := by
  cases kind with
  | placement componentId clips layer => cases shown
  | component clips layer => cases shown
  | document => rfl
  | canvas background => rfl
  | group => rfl
  | frame clips layer => rfl

/-- What a preview does not show as an element refers to a component: an instance
to the component that it places, a component to itself. -/
theorem reference_of_not_shown {index : Nat} {id name : String} {kind : Container}
    {children : List Node} {part : PreviewNode}
    (hidden : showsElement index (.container id name kind children) = false)
    (made : project.previewNodeAt index (.container id name kind children) = .ok part) :
    Exists fun target => part = .reference target ∧ Exists fun component =>
      project.previewReference ⟨.main, index⟩ component true = .ok target ∧
        (((Node.container id name kind children).isInstance = true ∧
            project.resolveComponent ⟨.main, index⟩ = .ok component) ∨
          ((Node.container id name kind children).isComponent = true ∧
            component = ⟨.main, index⟩)) := by
  cases kind with
  | placement componentId clips layer =>
      rcases (Fault.bind_eq_ok_iff _ _ _).mp made with ⟨component, resolved, rest⟩
      rcases (Fault.bind_eq_ok_iff _ _ _).mp rest with ⟨target, referred, whole⟩
      exact ⟨target, (Except.ok.inj whole).symm, component, referred, Or.inl ⟨rfl, resolved⟩⟩
  | component clips layer =>
      rcases (Fault.bind_eq_ok_iff _ _ _).mp made with ⟨target, referred, whole⟩
      exact ⟨target, (Except.ok.inj whole).symm, _, referred, Or.inr ⟨rfl, rfl⟩⟩
  | document => cases hidden
  | canvas background => cases hidden
  | group => cases hidden
  | frame clips layer => cases hidden

mutual

/-- The elements of a preview are found along a pruned walk. -/
theorem elementTags_of_previewNodeAt {index : Nat} : {node : Node} -> {part : PreviewNode} ->
    project.previewNodeAt index node = .ok part ->
      part.elementTags =
        (Document.walkAt showsElement (fun _ => true) index node).map
          fun place => project.scene.tagName ⟨.main, place⟩
  | .leaf id name kind, part, made => by
      rw [previewNodeAt] at made
      rw [Document.walkAt, if_pos (showsElement_leaf index id name kind)]
      split at made
      · rw [← Except.ok.inj made]
        rfl
      · rw [← Except.ok.inj made]
        rfl
  | .container id name kind children, part, made => by
      rw [Document.walkAt]
      cases shown : showsElement index (.container id name kind children) with
      | true =>
          rw [previewNodeAt_of_shown shown] at made
          rcases (Fault.bind_eq_ok_iff _ _ _).mp made with ⟨below, inside, whole⟩
          rw [← Except.ok.inj whole, PreviewNode.elementTags, if_pos rfl, if_pos rfl,
            List.map_cons, elementTagsOf_of_previewNodesFrom inside]
      | false =>
          rcases reference_of_not_shown shown made with ⟨target, same, _⟩
          rw [same]
          rfl

theorem elementTagsOf_of_previewNodesFrom {next : Nat} : {nodes : List Node} ->
    {parts : List PreviewNode} -> project.previewNodesFrom next nodes = .ok parts ->
      PreviewNode.elementTagsOf parts =
        (Document.walkFrom showsElement (fun _ => true) next nodes).map
          fun place => project.scene.tagName ⟨.main, place⟩
  | [], parts, made => by
      rw [previewNodesFrom] at made
      rw [← Except.ok.inj made]
      rfl
  | node :: rest, parts, made => by
      rw [previewNodesFrom] at made
      rcases (Fault.bind_eq_ok_iff _ _ _).mp made with ⟨first, head, tail⟩
      rcases (Fault.bind_eq_ok_iff _ _ _).mp tail with ⟨others, below, whole⟩
      rw [← Except.ok.inj whole, PreviewNode.elementTagsOf, Document.walkFrom, List.map_append,
        elementTags_of_previewNodeAt head, elementTagsOf_of_previewNodesFrom below]

end

/-! ## Layers of a component -/

/-- A node is a layer of a component: it is the component, or lies inside it
without an instance or another component in between. -/
def HasLayer (project : Project) (component key : NodeKey) : Prop :=
  project.scene.Contains component key ∧
    forall between, project.scene.Contains component between ->
      project.scene.Contains between key -> between ≠ component ->
        (project.node between).isInstance = false ∧ (project.node between).isComponent = false

/-- Nothing from a component down to a node is a document or a page, and nothing
above the node has an export that can be made. -/
def IsInPlainSight (project : Project) (component key : NodeKey) : Prop :=
  forall between, project.scene.Contains component between ->
    project.scene.Contains between key ->
      (project.node between).type ≠ .document ∧ (project.node between).type ≠ .canvas ∧
        (between ≠ key -> project.supportedExport? between = none)

/-- Within one component of the main document, statements about everything
between two nodes are statements about positions. -/
theorem forall_between_iff {component key : NodeKey} (main : component.file = .main)
    (valid : project.scene.IsNode key) (inside : project.scene.Contains component key)
    (Holds : NodeKey -> Prop) :
    (forall between, project.scene.Contains component between ->
        project.scene.Contains between key -> Holds between) ↔
      forall place, component.index <= place ->
        (project.scene.document .main).Covers place key.index -> Holds ⟨.main, place⟩ := by
  have sameFile := ((Scene.contains_iff valid component).mp inside).1
  have keyMain : key.file = .main := sameFile.symm.trans main
  rw [Scene.forall_between_iff valid inside, keyMain]

theorem mainKey_ne_iff {component : NodeKey} (main : component.file = .main) (place : Nat) :
    (⟨.main, place⟩ : NodeKey) ≠ component ↔ place ≠ component.index := by
  cases component with
  | mk file index =>
      cases main
      simp only [ne_eq, NodeKey.mk.injEq, true_and]

/-- The layers of a component are the component and what its preview shows as
elements. -/
theorem hasLayer_iff {component : NodeKey} (member : component ∈ project.components)
    (key : NodeKey) :
    project.HasLayer component key ↔ key.file = .main ∧
      (project.scene.document .main).Covers component.index key.index ∧
      (project.scene.document .main).Open showsElement (fun _ => true) (component.index + 1)
        key.index := by
  rcases (mem_components_iff component).mp member with ⟨main, valid, _⟩
  constructor
  · intro layer
    have keyValid := layer.1.isNode valid
    rcases (Scene.contains_iff keyValid component).mp layer.1 with ⟨sameFile, covers⟩
    have keyMain : key.file = .main := sameFile.symm.trans main
    rw [keyMain] at covers
    refine ⟨keyMain, covers, ?_⟩
    have places := (forall_between_iff main keyValid layer.1 _).mp layer.2
    intro place lower reaches
    have shown := places place (Nat.le_of_succ_le lower) reaches
    rw [mainKey_ne_iff main] at shown
    rw [showsElement_eq_true_iff]
    exact ⟨shown (by omega), fun _ => rfl⟩
  · intro found
    rcases found with ⟨keyMain, covers, free⟩
    have keyValid : project.scene.IsNode key := by
      rw [Scene.IsNode, keyMain]
      exact covers.lower_valid
    have inside : project.scene.Contains component key := by
      rw [Scene.contains_iff keyValid, keyMain]
      exact ⟨main, covers⟩
    refine ⟨inside, (forall_between_iff main keyValid inside _).mpr ?_⟩
    intro place lower reaches
    rw [mainKey_ne_iff main]
    intro different
    have shown := (free place (by omega) reaches).1
    rw [showsElement_eq_true_iff] at shown
    exact shown

/-- A preview is made of the layers of its component. -/
theorem mem_elementTags_iff {component : NodeKey} {preview : Preview}
    (member : component ∈ project.components) (made : project.preview component = .ok preview)
    (tag : String) :
    tag ∈ preview.elementTags ↔
      Exists fun key => project.HasLayer component key ∧ tag = project.scene.tagName key := by
  rcases (mem_components_iff component).mp member with ⟨main, valid, _⟩
  rcases (preview_eq_ok_iff component preview).mp made with ⟨below, _, own, _⟩
  have mainValid : component.index < (project.scene.document .main).size := by
    rw [Scene.IsNode, main] at valid
    exact valid
  have inner := elementTagsOf_of_previewNodesFrom below
  rw [Preview.elementTags, List.mem_cons, inner, List.mem_map, own, ← node_of_main main]
  constructor
  · intro shown
    rcases shown with itself | ⟨place, found, same⟩
    · refine ⟨component, (hasLayer_iff member component).mpr ⟨main, ?_, ?_⟩, itself⟩
      · exact Document.Covers.refl mainValid
      · intro above lower reaches
        have upper := reaches.1
        omega
    · rcases (Document.mem_walkFrom_iff mainValid place).mp found with ⟨_, covers, free⟩
      exact ⟨⟨.main, place⟩, (hasLayer_iff member _).mpr ⟨rfl, covers, free⟩, same.symm⟩
  · intro layered
    rcases layered with ⟨key, layer, same⟩
    rcases (hasLayer_iff member key).mp layer with ⟨keyMain, covers, free⟩
    by_cases itself : key = component
    · rw [itself] at same
      exact Or.inl same
    · have different : key.index ≠ component.index := fun equal =>
        itself (NodeKey.eq_of_same_place (keyMain.trans main.symm) equal)
      have deeper : component.index < key.index :=
        Nat.lt_of_le_of_ne covers.1 different.symm
      refine Or.inr ⟨key.index, ?_, ?_⟩
      · exact (Document.mem_walkFrom_iff mainValid key.index).mpr ⟨deeper, covers, free⟩
      · rw [same, ← keyMain]

/-! ## Which layers are declared -/

/-- A node with something below it is no shape. -/
theorem isShape_eq_false_of_covers {document : Document} {above index : Nat}
    (covers : document.Covers above index) (different : above ≠ index) :
    (document.node above).isShape = false := by
  have stops := (document.holds covers.valid).stop_eq
  have lower := covers.1
  have upper := covers.2
  cases node : document.node above with
  | container id name kind children => rfl
  | leaf id name kind =>
      rw [node, Node.size] at stops
      omega

/-- A layer of a component is declared by no other component. -/
theorem owner_eq_of_hasLayer {component owner key : NodeKey}
    (member : component ∈ project.components) (ownerMember : owner ∈ project.components)
    (layer : project.HasLayer component key) (declared : project.Declares owner key) :
    owner.index = component.index := by
  rcases (hasLayer_iff member key).mp layer with ⟨_, covers, free⟩
  rcases (mem_components_iff owner).mp ownerMember with ⟨main, _, isComponent⟩
  rcases Nat.lt_or_ge component.index owner.index with later | earlier
  · have shown := (free owner.index later declared.1).1
    rw [node_of_main main, showsElement_eq_true_iff, isComponent] at shown
    cases shown.2
  · exact owner_eq_of_le member declared covers earlier

theorem declares_iff_of_hasLayer {component key : NodeKey} (member : component ∈ project.components)
    (layer : project.HasLayer component key) :
    project.Declares component key ↔ project.IsInPlainSight component key := by
  rcases (mem_components_iff component).mp member with ⟨main, valid, isComponent⟩
  rcases (hasLayer_iff member key).mp layer with ⟨keyMain, covers, free⟩
  have keyValid := layer.1.isNode valid
  rw [IsInPlainSight, forall_between_iff main keyValid layer.1]
  constructor
  · intro declared place lower reaches
    rcases declared.2 place lower reaches with ⟨visited, descended⟩
    rw [declares_eq_true_iff] at visited
    refine ⟨visited.1, visited.2.1, ?_⟩
    intro different
    rw [mainKey_ne_iff keyMain] at different
    exact ((declaresChildren_eq_true_iff _).mp (descended different)).1
  · intro plain
    refine ⟨covers, ?_⟩
    intro place lower reaches
    rcases plain place lower reaches with ⟨notDocument, notCanvas, bare⟩
    rw [mainKey_ne_iff keyMain] at bare
    constructor
    · rw [declares_eq_true_iff]
      refine ⟨notDocument, notCanvas, ?_⟩
      by_cases itself : place = component.index
      · rw [itself, node_of_main main]
        exact ⟨isInstance_eq_false_of_isComponent isComponent, fun _ => rfl⟩
      · have shown := (free place (by omega) reaches).1
        rw [showsElement_eq_true_iff] at shown
        refine ⟨shown.1, ?_⟩
        intro another
        rw [shown.2] at another
        cases another
    · intro different
      have noShape := isShape_eq_false_of_covers reaches different
      exact (declaresChildren_eq_true_iff _).mpr ⟨bare different, noShape⟩

/-- A layer of a component is declared exactly when it is in plain sight. -/
theorem mem_declaredKeys_iff_of_hasLayer {component key : NodeKey}
    (member : component ∈ project.components) (layer : project.HasLayer component key) :
    key ∈ project.declaredKeys ↔ project.IsInPlainSight component key := by
  rw [mem_declaredKeys_iff, ← declares_iff_of_hasLayer member layer]
  constructor
  · intro found
    rcases found with ⟨_, owner, ownerMember, declared⟩
    have same := owner_eq_of_hasLayer member ownerMember layer declared
    rw [Declares, same] at declared
    exact declared
  · intro declared
    exact ⟨((hasLayer_iff member key).mp layer).1, component, member, declared⟩

/-! ## Elements and declarations -/

/-- The tag of a node of the main document is declared once, if the node is
declared, and otherwise never. -/
theorem count_tagName_eq_one_iff {key : NodeKey} (main : key.file = .main)
    (valid : project.scene.IsNode key) :
    (project.declaredKeys.map project.scene.tagName).count (project.scene.tagName key) = 1 ↔
      key ∈ project.declaredKeys := by
  have distinct := (List.nodup_append.mp (nodup_declared_and_preview_tags project)).1
  constructor
  · intro once
    have listed : project.scene.tagName key ∈ project.declaredKeys.map project.scene.tagName := by
      rw [← List.count_pos_iff, once]
      exact Nat.one_pos
    rcases List.mem_map.mp listed with ⟨other, member, same⟩
    have otherMain := ((mem_declaredKeys_iff other).mp member).1
    have equal := Scene.tagName_injective (isNode_of_mem_declaredKeys member) valid
      (otherMain.trans main.symm) same
    rw [← equal]
    exact member
  · intro member
    exact List.count_eq_one_of_mem distinct (List.mem_map_of_mem member)

/-- Where a project has markup with previews, every element of every preview is
declared exactly once, if and only if every layer of every component is in plain
sight there. -/
theorem preview_tags_declared_iff {markup : String}
    (translated : project.translate.outcome = .ok markup)
    (wanted : project.options.previews = true) :
    Exists fun page => project.page.outcome = .ok page ∧
      page.markup? project.options = .ok markup ∧
      ((forall preview, preview ∈ page.allPreviews -> forall tag, tag ∈ preview.elementTags ->
          (page.declarations.map (·.tag)).count tag = 1) ↔
        forall component, component ∈ project.components -> forall key,
          project.HasLayer component key -> project.IsInPlainSight component key) := by
  rcases (translate_eq_ok_iff markup).mp translated with ⟨page, written, text⟩
  refine ⟨page, written, text, ?_⟩
  have tags : page.declarations.map (·.tag) = project.declaredKeys.map project.scene.tagName :=
    map_page_declarations written _
  -- Counting the tag of a layer asks whether that layer is declared.
  have counted : forall component key, component ∈ project.components ->
      project.HasLayer component key ->
        ((page.declarations.map (·.tag)).count (project.scene.tagName key) = 1 ↔
          project.IsInPlainSight component key) := by
    intro component key member layer
    have main := ((hasLayer_iff member key).mp layer).1
    have valid := layer.1.isNode ((mem_components_iff component).mp member).2.1
    rw [tags, count_tagName_eq_one_iff main valid, mem_declaredKeys_iff_of_hasLayer member layer]
  constructor
  · intro declared component member key layer
    have all := allPreviews_of_page written
    rw [if_pos wanted] at all
    rcases Fault.exists_of_mapM_eq_ok all member with ⟨preview, listed, made⟩
    have shown := (mem_elementTags_iff member made _).mpr ⟨key, layer, rfl⟩
    exact (counted component key member layer).mp (declared preview listed _ shown)
  · intro plain preview listed tag shown
    rcases (mem_allPreviews_iff written wanted preview).mp listed with ⟨component, member, made⟩
    rcases (mem_elementTags_iff member made tag).mp shown with ⟨key, layer, same⟩
    rw [same]
    exact (counted component key member layer).mpr (plain component member key layer)

/-- A frame that is exported as an image, with a shape inside. -/
def exportedBanner : Node :=
  .container "1:2" "Banner"
    (.frame false { Layer.blank with exportSettings := [.scaled .png 1.0] })
    [.leaf "1:3" "Dot" (.rectangle none .blank)]

/-- The preview of a component that holds nothing but a text uses declared
elements only. -/
theorem label_preview_tags_declared :
    Exists fun page =>
      (singleComponent [.leaf "1:2" "Label" (.text "x" .blank .blank)]).page.outcome = .ok page ∧
      forall preview, preview ∈ page.allPreviews -> forall tag, tag ∈ preview.elementTags ->
        (page.declarations.map (·.tag)).count tag = 1 := by
  let project := singleComponent [.leaf "1:2" "Label" (.text "x" .blank .blank)]
  have ended : project.page.outcome.isOk = true := by decide +kernel
  rcases exists_translate_iff.mpr ended with ⟨markup, translated⟩
  rcases preview_tags_declared_iff translated rfl with ⟨page, written, _, exactly⟩
  refine ⟨page, written, exactly.mpr ?_⟩
  intro component member key layer
  have components : project.components = [⟨.main, 1⟩] := by decide +kernel
  have size : (project.scene.document .main).size = 3 := by decide +kernel
  have bare : forall place, place ∈ [1, 2] ->
      (project.node ⟨.main, place⟩).type ≠ .document ∧
        (project.node ⟨.main, place⟩).type ≠ .canvas ∧
        (project.supportedExport? ⟨.main, place⟩).isNone = true := by
    decide +kernel
  have here : component = ⟨.main, 1⟩ := List.mem_singleton.mp (components ▸ member)
  have valid : project.scene.IsNode key :=
    layer.1.isNode ((mem_components_iff component).mp member).2.1
  rw [here] at layer ⊢
  rw [IsInPlainSight, forall_between_iff rfl valid layer.1]
  intro place lower reaches
  have upper := reaches.valid
  rw [size] at upper
  have inside : place ∈ [1, 2] := by
    change 1 <= place at lower
    have places : place = 1 ∨ place = 2 := by omega
    simp only [List.mem_cons, places, List.not_mem_nil, or_false]
  rcases bare place inside with ⟨notDocument, notCanvas, noExport⟩
  exact ⟨notDocument, notCanvas, fun _ => Option.isNone_iff_eq_none.mp noExport⟩

/-- A shape inside an exported frame is shown by the preview and declared
nowhere. -/
theorem exportedBanner_preview_tag_not_declared :
    (Exists fun markup =>
      (singleComponent [exportedBanner]).translate.outcome = .ok markup) ∧
    Exists fun page => (singleComponent [exportedBanner]).page.outcome = .ok page ∧
      Exists fun preview => preview ∈ page.allPreviews ∧
        "Card_Dot" ∈ preview.elementTags ∧
        (page.declarations.map (·.tag)).count "Card_Dot" = 0 := by
  have evaluated : (singleComponent [exportedBanner]).page.outcome.toOption.any (fun page =>
      page.allPreviews.any (fun preview => preview.elementTags.contains "Card_Dot") &&
        (page.declarations.map (·.tag)).count "Card_Dot" == 0) = true := by
    decide +kernel
  rcases exists_page_of_any evaluated with ⟨page, written, passes⟩
  rw [Bool.and_eq_true, List.any_eq_true, beq_iff_eq] at passes
  rcases passes with ⟨⟨preview, listed, shown⟩, absent⟩
  exact ⟨exists_translate_of_page written, page, written, preview, listed,
    List.contains_iff_mem.mp shown, absent⟩

end Project
end SceneMarkup

import SceneMarkup.Proofs.Markup.Slots

namespace SceneMarkup

/-!
# References between previews

A preview that places an instance refers to the preview of its component and
names the slots there after the nodes at the same places.  That a node is found
at the same place is checked, and what kind of node it is is not.  So the names
are told apart, and what is handed down is the right text of the preview
around, but a slot is hit only where the node at the same place is a text, too.

Where a component is referred to by itself this is always so.  Where an
instance was changed after it was made it need not be.
-/

/-! ## The references of a preview -/

namespace PreviewNode

mutual

/-- The references inside a part of a preview, in order. -/
def references : PreviewNode -> List PreviewReference
  | .reference target => [target]
  | .text _ _ => []
  | .element _ children => referencesOf children

/-- The references inside parts of a preview, in order. -/
def referencesOf : List PreviewNode -> List PreviewReference
  | [] => []
  | node :: rest => references node ++ referencesOf rest

end

end PreviewNode

/-- The references inside the declaration of a preview, in order. -/
def Preview.references (preview : Preview) : List PreviewReference :=
  PreviewNode.referencesOf preview.children

namespace PreviewNode

mutual

/-- A reference inside a part has a line of its own. -/
theorem line_mem_lines {target : PreviewReference} (layout : String) (depth : Nat) :
    (node : PreviewNode) -> target ∈ node.references ->
      Exists fun level => ⟨level, target.line layout⟩ ∈ node.lines layout depth
  | .reference own, member => by
      rw [references, List.mem_singleton] at member
      refine ⟨depth, ?_⟩
      rw [lines, member]
      exact List.mem_cons_self
  | .text _ _, member => by
      rw [references] at member
      cases member
  | .element tag children, member => by
      rw [references] at member
      rcases line_mem_linesOf layout (depth + 1) children member with ⟨level, listed⟩
      refine ⟨level, ?_⟩
      rw [lines]
      exact List.mem_append_left _ (List.mem_cons_of_mem _ listed)

theorem line_mem_linesOf {target : PreviewReference} (layout : String) (depth : Nat) :
    (nodes : List PreviewNode) -> target ∈ referencesOf nodes ->
      Exists fun level => ⟨level, target.line layout⟩ ∈ linesOf layout depth nodes
  | [], member => by
      rw [referencesOf] at member
      cases member
  | node :: rest, member => by
      rw [referencesOf, List.mem_append] at member
      rw [linesOf]
      rcases member with here | later
      · rcases line_mem_lines layout depth node here with ⟨level, listed⟩
        exact ⟨level, List.mem_append_left _ listed⟩
      · rcases line_mem_linesOf layout depth rest later with ⟨level, listed⟩
        exact ⟨level, List.mem_append_right _ listed⟩

end

end PreviewNode

/-- The line of a reference inside a preview begins with its tag. -/
theorem Preview.exists_line_of_mem_references (options : Options) {preview : Preview}
    {target : PreviewReference} (listed : target ∈ preview.references) :
    Exists fun line => line ∈ preview.lines options ∧
      Exists fun rest => line.text = String.join ["<", target.tag, rest] := by
  let layout := previewLayoutAttribute options true
  rcases PreviewNode.line_mem_linesOf layout 1 preview.children listed with ⟨level, member⟩
  refine ⟨⟨level, target.line layout⟩, ?_, String.join [layout, " className=\"",
    target.className, "\"", String.join (target.props.map TextProp.assignment), " />"], ?_⟩
  · rw [lines, declarationLines]
    exact List.mem_append_left _ (List.mem_append_left _ (List.mem_cons_of_mem _ member))
  · simp only [PreviewReference.line, String.join_cons, String.join_nil, String.append_assoc,
      String.append_empty]

namespace Project

variable {project : Project}

/-- An instance refers to the component that it places, a component to itself. -/
def RefersTo (project : Project) (referrer component : NodeKey) : Prop :=
  ((project.node referrer).isInstance = true ∧ project.resolveComponent referrer = .ok component) ∨
    ((project.node referrer).isComponent = true ∧ component = referrer)

/-- A reference comes from a node among positions in a row. -/
def ComesFromAmong (project : Project) (next count : Nat) (target : PreviewReference) : Prop :=
  Exists fun place => (next <= place ∧ place < next + count) ∧
    Exists fun component => project.RefersTo ⟨.main, place⟩ component ∧
      project.previewReference ⟨.main, place⟩ component true = .ok target

theorem ComesFromAmong.mono {next count start total : Nat} {target : PreviewReference}
    (comes : project.ComesFromAmong next count target) (begins : start <= next)
    (ends : next + count <= start + total) : project.ComesFromAmong start total target := by
  rcases comes with ⟨place, range, rest⟩
  exact ⟨place, by omega, rest⟩

mutual

/-- The references inside a part of a preview come from its range. -/
theorem comesFrom_of_previewNodeAt {index : Nat} {trail : List Step} : {node : Node} ->
    {part : PreviewNode} -> (project.scene.document .main).Holds index trail node ->
      project.previewNodeAt index node = .ok part ->
        forall target, target ∈ part.references -> project.ComesFromAmong index node.size target
  | .leaf id name kind, part, _, made, target, member => by
      rw [previewNodeAt] at made
      split at made
      · rw [← Except.ok.inj made] at member
        cases member
      · rw [← Except.ok.inj made] at member
        cases member
  | .container id name kind children, part, held, made, target, member => by
      cases shown : showsElement index (.container id name kind children) with
      | true =>
          rw [previewNodeAt_of_shown shown] at made
          rcases (Fault.bind_eq_ok_iff _ _ _).mp made with ⟨below, inside, whole⟩
          rw [← Except.ok.inj whole, PreviewNode.references] at member
          have comes := comesFrom_of_previewNodesFrom held.below inside target member
          apply comes.mono (Nat.le_succ index)
          rw [Node.size_eq]
          omega
      | false =>
          rcases reference_of_not_shown shown made with ⟨own, same, component, referred, refers⟩
          rw [same, PreviewNode.references, List.mem_singleton] at member
          have nonempty := (Node.container id name kind children).size_pos
          refine ⟨index, ⟨Nat.le_refl _, by omega⟩, component, ?_, member ▸ referred⟩
          rw [RefersTo, node_of_holds held]
          exact refers

theorem comesFrom_of_previewNodesFrom {next parent branch : Nat} {trail : List Step} :
    {nodes : List Node} -> {parts : List PreviewNode} ->
      (project.scene.document .main).HoldsBelow next parent branch trail nodes ->
        project.previewNodesFrom next nodes = .ok parts ->
          forall target, target ∈ PreviewNode.referencesOf parts ->
            project.ComesFromAmong next (Node.sizeAll nodes) target
  | [], parts, _, made, target, member => by
      rw [previewNodesFrom] at made
      rw [← Except.ok.inj made] at member
      cases member
  | node :: rest, parts, held, made, target, member => by
      rw [previewNodesFrom] at made
      rcases (Fault.bind_eq_ok_iff _ _ _).mp made with ⟨first, head, tail⟩
      rcases (Fault.bind_eq_ok_iff _ _ _).mp tail with ⟨others, below, whole⟩
      rw [← Except.ok.inj whole, PreviewNode.referencesOf, List.mem_append] at member
      rw [Node.sizeAll]
      rcases member with here | later
      · apply (comesFrom_of_previewNodeAt held.head head target here).mono (Nat.le_refl _)
        omega
      · apply (comesFrom_of_previewNodesFrom held.tail below target later).mono
          (Nat.le_add_right _ _)
        omega

end

/-- A reference inside a preview comes from a node of the component. -/
theorem referrer_of_mem_references {owner : NodeKey} {preview : Preview}
    (member : owner ∈ project.components) (made : project.preview owner = .ok preview)
    {target : PreviewReference} (inside : target ∈ preview.references) :
    Exists fun referrer => Exists fun component => project.scene.Contains owner referrer ∧
      project.RefersTo referrer component ∧
      project.previewReference referrer component true = .ok target := by
  rcases (mem_components_iff owner).mp member with ⟨main, valid, _⟩
  have below := ((preview_eq_ok_iff owner preview).mp made).1
  cases owner with
  | mk file index =>
      cases main
      have held : (project.scene.document .main).Holds index _
          ((project.scene.document .main).node index) := Document.holds _ valid
      rcases comesFrom_of_previewNodesFrom held.below below target inside with
        ⟨place, range, component, refers, referred⟩
      have covers : (project.scene.document .main).Covers index place := by
        refine ⟨by omega, ?_⟩
        rw [held.stop_eq, Node.size_eq]
        omega
      have placeValid : project.scene.IsNode ⟨.main, place⟩ := covers.lower_valid
      refine ⟨⟨.main, place⟩, component, ?_, refers, referred⟩
      exact (Scene.contains_iff placeValid _).mpr ⟨rfl, covers⟩

/-! ## Counterparts -/

/-- The counterpart of a node lies inside the component. -/
theorem contains_of_counterpart? {instanceKey component text source : NodeKey}
    (valid : project.scene.IsNode component)
    (found : project.counterpart? instanceKey component text = some source) :
    project.scene.Contains component source := by
  rcases Option.bind_eq_some_iff.mp found with ⟨path, _, followed⟩
  apply (Scene.path?_isSome_iff valid source).mp
  exact ⟨path, (Scene.follow?_eq_some_iff valid path source).mp followed⟩

/-- Nodes at different places have different counterparts. -/
theorem counterpart?_injective {instanceKey component first second source : NodeKey}
    (instanceValid : project.scene.IsNode instanceKey)
    (valid : project.scene.IsNode component)
    (firstFound : project.counterpart? instanceKey component first = some source)
    (secondFound : project.counterpart? instanceKey component second = some source) :
    first = second := by
  rcases Option.bind_eq_some_iff.mp firstFound with ⟨path, firstPath, firstFollowed⟩
  rcases Option.bind_eq_some_iff.mp secondFound with ⟨other, secondPath, secondFollowed⟩
  rw [Scene.follow?_eq_some_iff valid] at firstFollowed secondFollowed
  rw [firstFollowed] at secondFollowed
  rw [← Option.some.inj secondFollowed, ← Scene.follow?_eq_some_iff instanceValid] at secondPath
  rw [← Scene.follow?_eq_some_iff instanceValid] at firstPath
  exact Option.some.inj (firstPath.symm.trans secondPath)

theorem isNode_of_refersTo {referrer component : NodeKey} (valid : project.scene.IsNode referrer)
    (refers : project.RefersTo referrer component) : project.scene.IsNode component := by
  rcases refers with ⟨_, resolved⟩ | ⟨_, same⟩
  · exact (resolveComponent_isNode resolved).1
  · rw [same]
    exact valid

/-! ## What references hand down -/

/-- A reference inside a preview hands every text of the referrer to one slot of
the component's preview.  The slots differ, and each text comes out of a slot of
the preview around.  All the slots are there exactly if the referrer has texts
only where its component has them. -/
structure HandsDown (project : Project) (preview : Preview) (referrer component : NodeKey)
    (target : PreviewReference) : Prop where
  tag : target.tag = project.scene.previewTagName component
  distinct : (target.props.map TextProp.name).Nodup
  wired : List.Forall₂
    (fun text prop =>
      (Exists fun source => project.counterpart? referrer component text = some source ∧
        prop.name = project.scene.slotName source) ∧
      prop.value.slot? = some (project.scene.slotName text) ∧
      project.scene.slotName text ∈ preview.usage.props.map TextProp.name)
    (project.textsBelow referrer) target.props
  declared : component ∈ project.components -> forall own, project.preview component = .ok own ->
    own.slots = (project.textsBelow component).map project.scene.slotName
  hits_iff :
    (forall prop, prop ∈ target.props ->
        prop.name ∈ (project.textsBelow component).map project.scene.slotName) ↔
      forall text, text ∈ project.textsBelow referrer -> forall source,
        project.counterpart? referrer component text = some source ->
          (project.node source).isText = true

theorem handsDown_of_previewReference {preview : Preview} {referrer component : NodeKey}
    {target : PreviewReference} (valid : project.scene.IsNode referrer)
    (refers : project.RefersTo referrer component)
    (referred : project.previewReference referrer component true = .ok target)
    (around : forall text, text ∈ project.textsBelow referrer ->
      project.scene.slotName text ∈ preview.usage.props.map TextProp.name) :
    project.HandsDown preview referrer component target := by
  have componentValid := isNode_of_refersTo valid refers
  rcases props_of_reference referred with ⟨source, found, props⟩
  have inside : forall text, text ∈ project.textsBelow referrer ->
      project.scene.Contains component (source text) := fun text member =>
    contains_of_counterpart? componentValid (found text member)
  have sameFile : forall text, text ∈ project.textsBelow referrer ->
      (source text).file = component.file := fun text member =>
    ((Scene.contains_iff ((inside text member).isNode componentValid) _).mp
      (inside text member)).1.symm
  refine ⟨((previewReference_eq_ok_iff _ _ _ _).mp referred).2.1, ?_, ?_, ?_, ?_⟩
  · rw [props, List.map_map, List.nodup_map_iff_inj_on (nodup_textsBelow referrer)]
    intro first firstMember second secondMember same
    have equal := Scene.slotName_injective
      ((inside first firstMember).isNode componentValid)
      ((inside second secondMember).isNode componentValid)
      ((sameFile first firstMember).trans (sameFile second secondMember).symm) same
    have secondFound := found second secondMember
    rw [← equal] at secondFound
    exact counterpart?_injective valid componentValid (found first firstMember) secondFound
  · rw [props, List.forall₂_map_right_iff, List.forall₂_same]
    intro text member
    exact ⟨⟨source text, found text member, rfl⟩, rfl, around text member⟩
  · exact fun member own made => slots_of_preview member made
  · rw [props, List.forall_mem_map]
    constructor
    · intro hits text member counterpart exact
      have same := Option.some.inj ((found text member).symm.trans exact)
      rcases List.mem_map.mp (hits text member) with ⟨slot, listed, named⟩
      rcases isNode_of_mem_textsBelow componentValid listed with ⟨slotFile, slotValid⟩
      have equal := Scene.slotName_injective slotValid
        ((inside text member).isNode componentValid)
        (slotFile.trans (sameFile text member).symm) named
      rw [← same, ← equal]
      exact ((mem_textsBelow_iff componentValid slot).mp listed).2
    · intro texts text member
      have isText := texts text member _ (found text member)
      apply List.mem_map_of_mem
      exact (mem_textsBelow_iff componentValid _).mpr ⟨inside text member, isText⟩

/-- Every reference inside the preview of a component comes from an instance or a
component inside, and hands down the texts there. -/
def ReferencesHandDown (project : Project) (owner : NodeKey) (preview : Preview) : Prop :=
  forall target, target ∈ preview.references ->
    Exists fun referrer => Exists fun component => project.scene.Contains owner referrer ∧
      project.RefersTo referrer component ∧ project.HandsDown preview referrer component target

theorem referencesHandDown_of_preview {owner : NodeKey} {preview : Preview}
    (member : owner ∈ project.components) (made : project.preview owner = .ok preview) :
    project.ReferencesHandDown owner preview := by
  have ownerValid := ((mem_components_iff owner).mp member).2.1
  intro target listed
  rcases referrer_of_mem_references member made listed with
    ⟨referrer, component, contains, refers, referred⟩
  have valid := contains.isNode ownerValid
  refine ⟨referrer, component, contains, refers, ?_⟩
  apply handsDown_of_previewReference valid refers referred
  intro text inside
  rcases (mem_textsBelow_iff valid text).mp inside with ⟨below, isText⟩
  have fills := fillsSlots_of_preview member made
  rw [fills.filled, fills.read]
  apply List.mem_map_of_mem
  exact (mem_textsBelow_iff ownerValid text).mpr ⟨contains.trans below ownerValid, isText⟩

/-- Where a project has markup with previews, every reference inside every preview
hands down texts: to slots of their own, out of slots of the preview around, and to
slots that are there exactly if the component has texts at the same places. -/
theorem references_hand_down {markup : String}
    (translated : project.translate.outcome = .ok markup)
    (wanted : project.options.previews = true) :
    Exists fun page => project.page.outcome = .ok page ∧
      page.markup? project.options = .ok markup ∧
      List.Forall₂ project.ReferencesHandDown project.components page.allPreviews := by
  rcases (translate_eq_ok_iff markup).mp translated with ⟨page, written, text⟩
  refine ⟨page, written, text, ?_⟩
  have all := allPreviews_of_page written
  rw [if_pos wanted, List.forall₂_iff_zip] at all
  rw [List.forall₂_iff_zip]
  refine ⟨all.1, ?_⟩
  intro owner preview paired
  exact referencesHandDown_of_preview (List.of_mem_zip paired).1 (all.2 paired)

/-! ## A text at the place of another layer -/

/-- A card that places a chip.  The instance holds a text, and the chip holds
some part at its place. -/
def placedChip (part : Node) : Project where
  scene :=
    { main := .ofDocument (.ofRoot (.container "0:0" "Document" .document
        [ .container "1:1" "Chip" (.component false .blank) [part],
          .container "2:1" "Card" (.component false .blank)
            [ .container "2:2" "Badge" (.placement "1:1" false .blank)
                [.leaf "I2:2;1:2" "Label" (.text "x" .blank .blank)] ] ]))
      imports := [] }
  options := ⟨false, true⟩
  outputPath := ""

/-- Where the chip holds a text, too, the text of the instance is handed to its
slot. -/
theorem placedChip_text_hits :
    Exists fun page =>
      (placedChip (.leaf "1:2" "Label" (.text "x" .blank .blank))).page.outcome = .ok page ∧
      List.Forall₂ (placedChip (.leaf "1:2" "Label" (.text "x" .blank .blank))).ReferencesHandDown
        (placedChip (.leaf "1:2" "Label" (.text "x" .blank .blank))).components page.allPreviews ∧
      page.allPreviews.map Preview.slots = [["chip_label_text"], ["card_label2_text"]] ∧
      page.allPreviews.flatMap Preview.references =
        [⟨"_Preview_Chip", "_2-2_card_badge", [⟨"chip_label", .slot "card_label2"⟩]⟩] := by
  let project := placedChip (.leaf "1:2" "Label" (.text "x" .blank .blank))
  have evaluated : project.page.outcome.toOption.any (fun page =>
      decide (page.allPreviews.map Preview.slots = [["chip_label_text"], ["card_label2_text"]] ∧
        page.allPreviews.flatMap Preview.references =
          [⟨"_Preview_Chip", "_2-2_card_badge", [⟨"chip_label", .slot "card_label2"⟩]⟩])) =
        true := by
    decide +kernel
  rcases exists_page_of_any evaluated with ⟨known, made, passes⟩
  rw [decide_eq_true_eq] at passes
  rcases exists_translate_of_page made with ⟨markup, translated⟩
  rcases references_hand_down translated rfl with ⟨page, written, _, handed⟩
  rw [Except.ok.inj (made.symm.trans written)] at passes
  exact ⟨page, written, handed, passes⟩

/-- Where the chip holds a rectangle, the text of the instance is handed to a slot
that the chip does not have. -/
theorem placedChip_text_misses :
    (Exists fun markup =>
      (placedChip (.leaf "1:2" "Label" (.rectangle none .blank))).translate.outcome = .ok markup) ∧
    Exists fun page =>
      (placedChip (.leaf "1:2" "Label" (.rectangle none .blank))).page.outcome = .ok page ∧
      page.allPreviews.map Preview.slots = [[], ["card_label2_text"]] ∧
      page.allPreviews.flatMap Preview.references =
        [⟨"_Preview_Chip", "_2-2_card_badge", [⟨"chip_label", .slot "card_label2"⟩]⟩] ∧
      (placedChip (.leaf "1:2" "Label" (.rectangle none .blank))).resolveComponent ⟨.main, 4⟩ =
        .ok ⟨.main, 1⟩ ∧
      (placedChip (.leaf "1:2" "Label" (.rectangle none .blank))).textsBelow ⟨.main, 1⟩ = [] := by
  let project := placedChip (.leaf "1:2" "Label" (.rectangle none .blank))
  have evaluated : project.page.outcome.toOption.any (fun page =>
      decide (page.allPreviews.map Preview.slots = [[], ["card_label2_text"]] ∧
        page.allPreviews.flatMap Preview.references =
          [⟨"_Preview_Chip", "_2-2_card_badge", [⟨"chip_label", .slot "card_label2"⟩]⟩])) =
        true := by
    decide +kernel
  have resolved : project.resolveComponent ⟨.main, 4⟩ = .ok ⟨.main, 1⟩ := by decide +kernel
  have noTexts : project.textsBelow ⟨.main, 1⟩ = [] := by decide +kernel
  rcases exists_page_of_any evaluated with ⟨page, written, passes⟩
  rw [decide_eq_true_eq] at passes
  exact ⟨exists_translate_of_page written, page, written, passes.1, passes.2, resolved, noTexts⟩

end Project
end SceneMarkup

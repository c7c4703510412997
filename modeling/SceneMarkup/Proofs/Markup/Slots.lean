import SceneMarkup.Proofs.Index.Paths
import SceneMarkup.Proofs.Markup.PageText
import SceneMarkup.Proofs.Markup.PreviewTags

namespace SceneMarkup

/-!
# The slots of a preview

The declaration of a preview reads slots, and the usage behind it fills them.
The two are made in different ways.  The declaration follows the tree: a layer
shows its own text, while an instance or another component inside is referred
to and is handed all the texts below it at once.  The usage lists the texts of
the whole component.

That they meet comes down to the order of positions.  Texts below a node occupy
part of its range, whether they are visited one by one or taken together, and
ranges of siblings follow each other.  So both read the texts of the component
in the order of the document.

What a declaration reads can be told from its lines alone: slots are the names in
braces that end as slots do.  Names hold no braces, and nothing else that stands in
braces ends like that, so the lines read what the parts of the preview read.
-/

/-! ## Reading slots -/

/-- The slot that is read for a text, if one is. -/
def TextValue.slot? : TextValue -> Option String
  | .slot name => some (name ++ "_text")
  | .literal _ => none

/-- The name of the slot that a text is handed to. -/
def TextProp.name (prop : TextProp) : String :=
  prop.slot ++ "_text"

/-- The slots that a reference reads to hand them on, in order. -/
def PreviewReference.slots (reference : PreviewReference) : List String :=
  reference.props.filterMap fun prop => prop.value.slot?

namespace PreviewNode

mutual

/-- The slots that a part of a preview reads, in order. -/
def slots : PreviewNode -> List String
  | .reference target => target.slots
  | .text _ value => value.slot?.toList
  | .element _ children => slotsOf children

/-- The slots that parts of a preview read, one after the other. -/
def slotsOf : List PreviewNode -> List String
  | [] => []
  | node :: rest => slots node ++ slotsOf rest

end

end PreviewNode

/-- The slots that the declaration of a preview reads, in order. -/
def Preview.slots (preview : Preview) : List String :=
  PreviewNode.slotsOf preview.children

/-! ### Slots in a text -/

/-- The names in braces in a text, read from outside of braces, or from inside of them
with the letters behind the brace in reverse. -/
def bracedFrom : Option (List Char) -> List Char -> List String
  | _, [] => []
  | none, char :: rest =>
      if char = '\x7b' then bracedFrom (some []) rest else bracedFrom none rest
  | some name, char :: rest =>
      if char = '\x7d' then String.ofList name.reverse :: bracedFrom none rest
      else bracedFrom (some (char :: name)) rest

/-- Whether a name in braces is that of a slot. -/
def isSlotName (name : String) : Bool :=
  "_text".toList.isSuffixOf name.toList

/-- The slots that a text reads, in order. -/
def slotsIn (text : String) : List String :=
  (bracedFrom none text.toList).filter isSlotName

/-- A text reads slots, whatever stands behind it. -/
def ReadsSlots (text : String) (slots : List String) : Prop :=
  forall rest, (bracedFrom none (text.toList ++ rest)).filter isSlotName =
    slots ++ (bracedFrom none rest).filter isSlotName

theorem ReadsSlots.slotsIn_eq {text : String} {slots : List String}
    (reads : ReadsSlots text slots) : slotsIn text = slots := by
  have whole := reads []
  rw [List.append_nil] at whole
  rw [slotsIn, whole, bracedFrom, List.filter_nil, List.append_nil]

theorem ReadsSlots.append {first second : String} {firstSlots secondSlots : List String}
    (firstReads : ReadsSlots first firstSlots) (secondReads : ReadsSlots second secondSlots) :
    ReadsSlots (first ++ second) (firstSlots ++ secondSlots) := by
  intro rest
  rw [String.toList_append, List.append_assoc, firstReads, secondReads, List.append_assoc]

theorem readsSlots_plain {text : String} (plain : '\x7b' ∉ text.toList) : ReadsSlots text [] := by
  intro rest
  rw [List.nil_append]
  generalize text.toList = letters at plain
  induction letters with
  | nil => rfl
  | cons char letters ih =>
      rw [List.mem_cons, not_or] at plain
      rw [List.cons_append, bracedFrom, if_neg fun same => plain.1 same.symm]
      exact ih plain.2

theorem bracedFrom_some {letters : List Char} (plain : '\x7d' ∉ letters)
    (name rest : List Char) :
    bracedFrom (some name) (letters ++ '\x7d' :: rest) =
      String.ofList (name.reverse ++ letters) :: bracedFrom none rest := by
  induction letters generalizing name with
  | nil => rw [List.nil_append, bracedFrom, if_pos rfl, List.append_nil]
  | cons char letters ih =>
      rw [List.mem_cons, not_or] at plain
      rw [List.cons_append, bracedFrom, if_neg fun same => plain.1 same.symm, ih plain.2,
        List.reverse_cons, List.append_assoc, List.singleton_append]

/-- A name in braces is read if it is that of a slot. -/
theorem readsSlots_braced {name : String} (plain : '\x7d' ∉ name.toList) :
    ReadsSlots ("\x7b" ++ name ++ "\x7d") ([name].filter isSlotName) := by
  intro rest
  have braces : ("\x7b" ++ name ++ "\x7d").toList ++ rest =
      '\x7b' :: (name.toList ++ '\x7d' :: rest) := by
    simp [String.toList_append]
  rw [braces, bracedFrom, if_pos rfl, bracedFrom_some plain, List.reverse_nil, List.nil_append,
    String.ofList_toList, ← List.filter_append]
  rfl

theorem isSlotName_append (name : String) : isSlotName (name ++ "_text") = true := by
  rw [isSlotName, List.isSuffixOf_iff_suffix, String.toList_append]
  exact List.suffix_append _ _

theorem readsSlots_slot {name : String} (plain : IsClassText name.toList) :
    ReadsSlots ("\x7b" ++ name ++ "_text\x7d") [name ++ "_text"] := by
  have inside : '\x7d' ∉ (name ++ "_text").toList := by
    rw [String.toList_append, List.mem_append, not_or]
    exact ⟨plain.not_mem (by decide), by decide⟩
  have reads := readsSlots_braced inside
  rw [List.filter_singleton, isSlotName_append] at reads
  have seam : "\x7b" ++ (name ++ "_text") ++ "\x7d" = "\x7b" ++ name ++ "_text\x7d" := by
    simp only [String.append_assoc, String.reduceAppend]
  exact seam ▸ reads

theorem readsSlots_class {text : String} (plain : IsClassText text.toList) : ReadsSlots text [] :=
  readsSlots_plain (plain.not_mem (by decide))

theorem readsSlots_join {Part : Type} {text : Part -> String} {slots : Part -> List String}
    {parts : List Part} (each : forall part, part ∈ parts -> ReadsSlots (text part) (slots part)) :
    ReadsSlots (String.join (parts.map text)) (parts.flatMap slots) := by
  induction parts with
  | nil => exact readsSlots_plain List.not_mem_nil
  | cons part rest ih =>
      rw [List.forall_mem_cons] at each
      rw [List.map_cons, String.join_cons, List.flatMap_cons]
      exact each.1.append (ih each.2)

/-- The slot of a text. -/
def Scene.slotName (scene : Scene) (key : NodeKey) : String :=
  scene.uniqueName key ++ "_text"

theorem Scene.slotName_injective {scene : Scene} {first second : NodeKey}
    (firstValid : scene.IsNode first) (secondValid : scene.IsNode second)
    (sameFile : first.file = second.file)
    (same : scene.slotName first = scene.slotName second) : first = second := by
  rw [slotName, slotName, String.append_left_inj] at same
  exact uniqueName_injective firstValid secondValid sameFile same

namespace Project

variable {project : Project}

/-! ## Texts in the order of the document -/

theorem node_of_holds {index : Nat} {trail : List Step} {node : Node}
    (held : (project.scene.document .main).Holds index trail node) :
    project.node ⟨.main, index⟩ = node :=
  held.node_eq

/-- The texts among positions in a row. -/
def textsAmong (project : Project) (next count : Nat) : List NodeKey :=
  ((List.range' next count).map (NodeKey.mk .main)).filter fun key => (project.node key).isText

theorem textsAmong_add (next first second : Nat) :
    project.textsAmong next (first + second) =
      project.textsAmong next first ++ project.textsAmong (next + first) second := by
  rw [textsAmong, ← List.range'_append_1, List.map_append, List.filter_append]
  rfl

theorem textsAmong_one (index : Nat) :
    project.textsAmong index 1 =
      if (project.node ⟨.main, index⟩).isText then [⟨.main, index⟩] else [] := by
  change List.filter _ [_] = _
  rw [List.filter_singleton]
  cases (project.node ⟨.main, index⟩).isText <;> rfl

/-- A node that is no text itself has the texts of its children. -/
theorem textsAmong_of_no_text {index : Nat} {trail : List Step} {node : Node}
    (held : (project.scene.document .main).Holds index trail node) (noText : node.isText = false) :
    project.textsAmong index node.size =
      project.textsAmong (index + 1) (Node.sizeAll node.children) := by
  rw [Node.size_eq, Nat.add_comm, textsAmong_add, textsAmong_one, node_of_holds held, noText]
  rfl

/-- The texts below a node are those in its range. -/
theorem textsBelow_eq {index : Nat} {trail : List Step} {node : Node}
    (held : (project.scene.document .main).Holds index trail node) :
    project.textsBelow ⟨.main, index⟩ = project.textsAmong index node.size := by
  rw [textsBelow, Scene.subtree_eq held]
  rfl

theorem mem_textsBelow_iff {key : NodeKey} (valid : project.scene.IsNode key) (text : NodeKey) :
    text ∈ project.textsBelow key ↔
      project.scene.Contains key text ∧ (project.node text).isText = true := by
  rw [textsBelow, List.mem_filter, Scene.mem_subtree_iff valid]

theorem isNode_of_mem_textsBelow {key text : NodeKey} (valid : project.scene.IsNode key)
    (member : text ∈ project.textsBelow key) :
    text.file = key.file ∧ project.scene.IsNode text := by
  have contains := ((mem_textsBelow_iff valid text).mp member).1
  have inside := contains.isNode valid
  exact ⟨((Scene.contains_iff inside key).mp contains).1.symm, inside⟩

theorem nodup_textsBelow (key : NodeKey) : (project.textsBelow key).Nodup := by
  rw [textsBelow, Scene.subtree, Document.subtree]
  refine List.Nodup.filter _ (List.Nodup.map ?_ (List.nodup_range' _))
  intro first second same
  exact (NodeKey.mk.inj same).2

/-- The slots of the texts below a node differ. -/
theorem nodup_slotNames {key : NodeKey} (valid : project.scene.IsNode key) :
    ((project.textsBelow key).map project.scene.slotName).Nodup := by
  rw [List.nodup_map_iff_inj_on (nodup_textsBelow key)]
  intro first firstMember second secondMember same
  rcases isNode_of_mem_textsBelow valid firstMember with ⟨firstFile, firstValid⟩
  rcases isNode_of_mem_textsBelow valid secondMember with ⟨secondFile, secondValid⟩
  exact Scene.slotName_injective firstValid secondValid (firstFile.trans secondFile.symm) same

/-! ## References -/

/-- Every text of an instance has a counterpart, and is handed to the slot that is
named after it. -/
theorem props_of_reference {instanceKey component : NodeKey} {inDeclaration : Bool}
    {target : PreviewReference}
    (referred : project.previewReference instanceKey component inDeclaration = .ok target) :
    Exists fun source : NodeKey -> NodeKey =>
      (forall text, text ∈ project.textsBelow instanceKey ->
        project.counterpart? instanceKey component text = some (source text)) ∧
      target.props = (project.textsBelow instanceKey).map fun text =>
        ⟨project.scene.uniqueName (source text), project.textValue inDeclaration text⟩ := by
  have made := ((previewReference_eq_ok_iff _ _ _ _).mp referred).1
  let source (text : NodeKey) : NodeKey :=
    (project.counterpart? instanceKey component text).getD text
  have found : forall text, text ∈ project.textsBelow instanceKey ->
      project.counterpart? instanceKey component text = some (source text) := by
    intro text member
    rcases Fault.exists_of_mapM_eq_ok made member with ⟨prop, _, handed⟩
    rcases (textProp_eq_ok_iff _ _ _ _ _).mp handed with ⟨counterpart, exact, _⟩
    change _ = some ((project.counterpart? instanceKey component text).getD text)
    rw [exact]
    rfl
  refine ⟨source, found, Fault.eq_map_of_mapM_eq_ok made ?_⟩
  intro text member
  exact (textProp_eq_ok_iff _ _ _ _ _).mpr ⟨source text, found text member, rfl⟩

/-- Inside a declaration every prop reads the slot of its text. -/
theorem slots_of_previewReference {instanceKey component : NodeKey} {target : PreviewReference}
    (referred : project.previewReference instanceKey component true = .ok target) :
    target.slots = (project.textsBelow instanceKey).map project.scene.slotName := by
  rcases props_of_reference referred with ⟨source, _, props⟩
  rw [PreviewReference.slots, props, List.filterMap_map]
  exact congrFun List.filterMap_eq_map _

mutual

/-- A part of a preview reads the slots of the texts in its range. -/
theorem slots_of_previewNodeAt {index : Nat} {trail : List Step} : {node : Node} ->
    {part : PreviewNode} -> (project.scene.document .main).Holds index trail node ->
      project.previewNodeAt index node = .ok part ->
        part.slots = (project.textsAmong index node.size).map project.scene.slotName
  | .leaf id name kind, part, held, made => by
      rw [Node.size, textsAmong_one, node_of_holds held]
      rw [previewNodeAt] at made
      split at made
      · rename_i text
        rw [← Except.ok.inj made, if_pos text]
        rfl
      · rename_i noText
        rw [← Except.ok.inj made, if_neg noText]
        rfl
  | .container id name kind children, part, held, made => by
      cases shown : showsElement index (.container id name kind children) with
      | true =>
          rw [previewNodeAt_of_shown shown] at made
          rcases (Fault.bind_eq_ok_iff _ _ _).mp made with ⟨below, inside, whole⟩
          have noText : (Node.container id name kind children).isText = false := by
            cases kind <;> rfl
          rw [← Except.ok.inj whole, PreviewNode.slots, textsAmong_of_no_text held noText]
          exact slotsOf_of_previewNodesFrom held.below inside
      | false =>
          rcases reference_of_not_shown shown made with ⟨target, same, component, referred, _⟩
          rw [same, PreviewNode.slots, slots_of_previewReference referred, textsBelow_eq held]

theorem slotsOf_of_previewNodesFrom {next parent branch : Nat} {trail : List Step} :
    {nodes : List Node} -> {parts : List PreviewNode} ->
      (project.scene.document .main).HoldsBelow next parent branch trail nodes ->
        project.previewNodesFrom next nodes = .ok parts ->
          PreviewNode.slotsOf parts =
            (project.textsAmong next (Node.sizeAll nodes)).map project.scene.slotName
  | [], parts, held, made => by
      rw [previewNodesFrom] at made
      rw [← Except.ok.inj made]
      rfl
  | node :: rest, parts, held, made => by
      rw [previewNodesFrom] at made
      rcases (Fault.bind_eq_ok_iff _ _ _).mp made with ⟨first, head, tail⟩
      rcases (Fault.bind_eq_ok_iff _ _ _).mp tail with ⟨others, below, whole⟩
      rw [← Except.ok.inj whole, PreviewNode.slotsOf, Node.sizeAll, textsAmong_add, List.map_append,
        slots_of_previewNodeAt held.head head, slotsOf_of_previewNodesFrom held.tail below]

end

/-! ## What the lines of a declaration read -/

/-- The slots that lines read, in order. -/
def slotsInLines (lines : List Line) : List String :=
  lines.flatMap fun line => slotsIn line.text

theorem readsSlots_layout (options : Options) :
    ReadsSlots (previewLayoutAttribute options true) [] := by
  rw [previewLayoutAttribute]
  split
  · exact readsSlots_plain (by decide)
  · have plain : ReadsSlots " " [] := readsSlots_plain (by decide)
    have braced : ReadsSlots ("\x7b" ++ "withAbsoluteLayout" ++ "\x7d") [] :=
      readsSlots_braced (by decide)
    exact plain.append braced

theorem readsSlots_opening {layout tag : String} (layoutReads : ReadsSlots layout [])
    (plain : IsClassText tag.toList) : ReadsSlots (PreviewNode.opening layout tag) [] := by
  have begins : ReadsSlots "<" [] := readsSlots_plain (by decide)
  have ends : ReadsSlots ">" [] := readsSlots_plain (by decide)
  exact ((begins.append (readsSlots_class plain)).append layoutReads).append ends

theorem readsSlots_closing {tag : String} (plain : IsClassText tag.toList) :
    ReadsSlots (PreviewNode.closing tag) [] := by
  have begins : ReadsSlots "</" [] := readsSlots_plain (by decide)
  have ends : ReadsSlots ">" [] := readsSlots_plain (by decide)
  exact (begins.append (readsSlots_class plain)).append ends

theorem readsSlots_previewTagName (scene : Scene) (key : NodeKey) :
    ReadsSlots (scene.previewTagName key) [] := by
  have own := readsSlots_class (Scene.ownPreviewTagName_letters scene key)
  rw [Scene.previewTagName_eq]
  cases key.file with
  | main => exact own
  | imported place =>
      have colon : ReadsSlots ":" [] := readsSlots_plain (by decide)
      exact ((readsSlots_class (Scene.moduleAlias_letters place)).append colon).append own

/-- A slot that is handed on is read, and the slot that it is handed to is not. -/
theorem readsSlots_assignment {slot name : String} (slotPlain : IsClassText slot.toList)
    (namePlain : IsClassText name.toList) :
    ReadsSlots (TextProp.assignment ⟨slot, .slot name⟩) [name ++ "_text"] := by
  have begins : ReadsSlots " " [] := readsSlots_plain (by decide)
  have equals : ReadsSlots "_text=" [] := readsSlots_plain (by decide)
  have reads := ((begins.append (readsSlots_class slotPlain)).append equals).append
    (readsSlots_slot namePlain)
  have seam (rest : String) : "_text=\x7b" ++ rest = "_text=" ++ ("\x7b" ++ rest) := by
    simp only [← String.append_assoc, String.reduceAppend]
  have spelled : TextProp.assignment ⟨slot, .slot name⟩ =
      " " ++ slot ++ "_text=" ++ ("\x7b" ++ name ++ "_text\x7d") := by
    simp only [TextProp.assignment, String.append_assoc, seam]
  rw [spelled]
  exact reads

/-- A reference inside a declaration reads its slots in the order of its props. -/
theorem readsSlots_reference {instanceKey component : NodeKey} {target : PreviewReference}
    (referred : project.previewReference instanceKey component true = .ok target)
    {layout : String} (layoutReads : ReadsSlots layout []) :
    ReadsSlots (target.line layout) target.slots := by
  rcases (previewReference_eq_ok_iff _ _ _ _).mp referred with ⟨_, tag, className⟩
  rcases props_of_reference referred with ⟨source, _, props⟩
  have classed : IsClassText target.className.toList := by
    rw [className]
    split
    · exact Scene.previewClassName_letters _ _
    · exact Scene.className_letters _ _
  have assigned : ReadsSlots (String.join (target.props.map TextProp.assignment))
      target.slots := by
    rw [PreviewReference.slots, List.filterMap_eq_flatMap_toList]
    apply readsSlots_join
    intro prop member
    rw [props] at member
    rcases List.mem_map.mp member with ⟨text, _, rfl⟩
    exact readsSlots_assignment (Scene.uniqueName_letters _ _) (Scene.uniqueName_letters _ _)
  have opens : ReadsSlots "<" [] := readsSlots_plain (by decide)
  have classes : ReadsSlots " className=\"" [] := readsSlots_plain (by decide)
  have quote : ReadsSlots "\"" [] := readsSlots_plain (by decide)
  have closes : ReadsSlots " />" [] := readsSlots_plain (by decide)
  have reads := (((((opens.append (readsSlots_previewTagName project.scene component)).append
    layoutReads).append classes).append (readsSlots_class classed)).append quote).append
      assigned |>.append closes
  rw [List.append_nil] at reads
  rw [PreviewReference.line, tag]
  exact reads

theorem readsSlots_textValue (project : Project) (key : NodeKey) :
    ReadsSlots (project.textValue true key).line (project.textValue true key).slot?.toList :=
  readsSlots_slot (Scene.uniqueName_letters project.scene key)

theorem slotsInLines_append (first second : List Line) :
    slotsInLines (first ++ second) = slotsInLines first ++ slotsInLines second :=
  List.flatMap_append

theorem slotsInLines_cons {text : String} {slots : List String} (reads : ReadsSlots text slots)
    (depth : Nat) (lines : List Line) :
    slotsInLines (⟨depth, text⟩ :: lines) = slots ++ slotsInLines lines := by
  rw [slotsInLines, List.flatMap_cons, reads.slotsIn_eq, slotsInLines]

theorem slotsInLines_singleton {text : String} {slots : List String}
    (reads : ReadsSlots text slots) (depth : Nat) : slotsInLines [⟨depth, text⟩] = slots := by
  rw [slotsInLines_cons reads, slotsInLines, List.flatMap_nil, List.append_nil]

/-- The lines of a part read the slots of the part. -/
theorem slotsInLines_lines (project : Project) {layout : String}
    (layoutReads : ReadsSlots layout []) :
    project.PartsKeep true
      (fun part => forall depth, slotsInLines (part.lines layout depth) = part.slots)
      (fun parts => forall depth, slotsInLines (PreviewNode.linesOf layout depth parts) =
        PreviewNode.slotsOf parts) where
  reference referred depth := by
    rw [PreviewNode.lines, PreviewNode.slots]
    exact slotsInLines_singleton (readsSlots_reference referred layoutReads) depth
  text key depth := by
    have plain := Scene.tagName_letters project.scene key
    rw [PreviewNode.lines, PreviewNode.slots, slotsInLines_cons (readsSlots_opening layoutReads plain),
      slotsInLines_cons (readsSlots_textValue project key),
      slotsInLines_singleton (readsSlots_closing plain), List.append_nil, List.nil_append]
  element key children below depth := by
    have plain := Scene.tagName_letters project.scene key
    rw [PreviewNode.lines, PreviewNode.slots, slotsInLines_append,
      slotsInLines_cons (readsSlots_opening layoutReads plain),
      slotsInLines_singleton (readsSlots_closing plain), below, List.nil_append, List.append_nil]
  nil _ := rfl
  cons first others depth := by
    rw [PreviewNode.linesOf, PreviewNode.slotsOf, slotsInLines_append, first, others]

/-- The lines that declare a preview read the slots of the preview. -/
theorem slotsInLines_declarationLines {component : NodeKey} {preview : Preview}
    (member : component ∈ project.components) (made : project.preview component = .ok preview) :
    slotsInLines (preview.declarationLines project.options) = preview.slots := by
  rcases (mem_components_iff component).mp member with ⟨main, valid, _⟩
  rcases (preview_eq_ok_iff component preview).mp made with ⟨below, _, tag, previewTag⟩
  have plain := Scene.tagName_letters project.scene component
  have layoutReads := readsSlots_layout project.options
  rw [previewNodesFrom_children main valid] at below
  have begins : ReadsSlots "<" [] := readsSlots_plain (by decide)
  have exports : ReadsSlots " export component as=\"" [] := readsSlots_plain (by decide)
  have quote : ReadsSlots "\"" [] := readsSlots_plain (by decide)
  have blank : ReadsSlots " " [] := readsSlots_plain (by decide)
  -- The class of the user is in braces too, but it is no slot.
  have handed : ReadsSlots ("\x7b" ++ "className" ++ "\x7d") [] := readsSlots_braced (by decide)
  have ends : ReadsSlots ">" [] := readsSlots_plain (by decide)
  have opens : ReadsSlots (preview.opening project.options) [] := by
    have reads := (((((begins.append (readsSlots_class plain)).append exports).append
      (readsSlots_previewTagName project.scene component)).append quote).append
        layoutReads).append ((blank.append handed).append ends)
    have spelled : preview.opening project.options = "<" ++ project.scene.tagName component
        ++ " export component as=\"" ++ project.scene.previewTagName component ++ "\""
        ++ previewLayoutAttribute project.options true
        ++ (" " ++ ("\x7b" ++ "className" ++ "\x7d") ++ ">") := by
      simp only [Preview.opening, tag, previewTag, String.join_cons, String.join_nil,
        String.append_assoc, String.append_empty, String.reduceAppend]
    exact spelled ▸ reads
  have closes : ReadsSlots (PreviewNode.closing preview.tag) [] := by
    rw [tag]
    exact readsSlots_closing plain
  rw [Preview.declarationLines, slotsInLines_append, slotsInLines_cons opens,
    slotsInLines_singleton closes, List.nil_append, List.append_nil]
  exact (slotsInLines_lines project layoutReads).of_parts _ below 1

/-! ## Usages -/

/-- A node is its own counterpart in the component around it. -/
theorem counterpart?_self {key text : NodeKey} (valid : project.scene.IsNode key)
    (inside : project.scene.Contains key text) : project.counterpart? key key text = some text := by
  rcases (Scene.path?_isSome_iff valid text).mpr inside with ⟨path, found⟩
  rw [counterpart?, found]
  exact (Scene.follow?_eq_some_iff valid path text).mpr found

/-- A component that refers to itself hands every text to the slot of this very
text. -/
theorem props_of_own_reference {key : NodeKey} {inDeclaration : Bool} {target : PreviewReference}
    (valid : project.scene.IsNode key)
    (referred : project.previewReference key key inDeclaration = .ok target) :
    target.props = (project.textsBelow key).map fun text =>
      ⟨project.scene.uniqueName text, project.textValue inDeclaration text⟩ := by
  rcases props_of_reference referred with ⟨source, found, props⟩
  rw [props]
  apply List.map_congr_left
  intro text member
  have inside := ((mem_textsBelow_iff valid text).mp member).1
  have same := (found text member).symm.trans (counterpart?_self valid inside)
  rw [Option.some.inj same]

/-- What a usage says to fill the slot of a text with its characters. -/
def filledSlot (project : Project) (text : NodeKey) : String :=
  String.join [" ", project.scene.slotName text, "=\x7b<fragment>",
    Escape.text ((project.node text).characters?.getD ""), "</fragment>\x7d"]

theorem assignment_textValue (text : NodeKey) :
    TextProp.assignment ⟨project.scene.uniqueName text, project.textValue false text⟩ =
      project.filledSlot text := by
  have seam (rest : String) :
      "_text=\x7b<fragment>" ++ rest = "_text" ++ ("=\x7b<fragment>" ++ rest) := by
    simp only [← String.append_assoc, String.reduceAppend]
  simp only [TextProp.assignment, textValue, Bool.false_eq_true, if_false, filledSlot,
    Scene.slotName, String.join_cons, String.join_nil, String.append_assoc, String.append_empty, seam]

/-- The usage of a component refers to its preview, and fills the slot of every text. -/
theorem usageLine_of_preview {component : NodeKey} {preview : Preview}
    (valid : project.scene.IsNode component)
    (made : project.preview component = .ok preview) :
    preview.usageLine project.options =
      String.join ["<", preview.previewTag, previewLayoutAttribute project.options false,
        " className=\"", project.scene.previewClassName component, "\"",
        String.join ((project.textsBelow component).map project.filledSlot), " />"] := by
  rcases (preview_eq_ok_iff component preview).mp made with ⟨_, referred, _, previewTag⟩
  rcases (previewReference_eq_ok_iff _ _ _ _).mp referred with ⟨_, tag, className⟩
  have assigned : preview.usage.props.map TextProp.assignment =
      (project.textsBelow component).map project.filledSlot := by
    rw [props_of_own_reference valid referred, List.map_map]
    exact List.map_congr_left fun text _ => assignment_textValue text
  rw [Preview.usageLine, PreviewReference.line, assigned, tag, className, if_pos rfl, previewTag]
  simp only [String.join_cons, String.join_nil, String.append_assoc, String.append_empty]

/-- The usage of a preview fills the slots that the declaration reads, each once
and in order, with the characters of the text that the slot is for. -/
structure FillsSlots (project : Project) (component : NodeKey) (preview : Preview) : Prop where
  used : preview.usage.tag = preview.previewTag
  read : preview.slots = (project.textsBelow component).map project.scene.slotName
  declared : slotsInLines (preview.declarationLines project.options) = preview.slots
  usage : preview.usageLine project.options =
    String.join ["<", preview.previewTag, previewLayoutAttribute project.options false,
      " className=\"", project.scene.previewClassName component, "\"",
      String.join ((project.textsBelow component).map project.filledSlot), " />"]
  distinct : preview.slots.Nodup
  filled : preview.usage.props.map TextProp.name = preview.slots
  characters : List.Forall₂
    (fun text prop => Exists fun characters =>
      (project.node text).characters? = some characters ∧
        prop.pieces = Piece.texts
          [" ", project.scene.uniqueName text, "_text=\x7b<fragment>", Escape.text characters,
            "</fragment>\x7d"])
    (project.textsBelow component) preview.usage.props

theorem exists_characters {node : Node} (text : node.isText = true) :
    Exists fun characters => node.characters? = some characters := by
  cases node with
  | container id name kind children => cases kind <;> cases text
  | leaf id name kind =>
      cases kind with
      | shape outline layer => cases outline <;> cases text
      | rectangle cornerRadius layer => cases text
      | text characters style layer => exact ⟨characters, rfl⟩

/-- The declaration of a preview reads the slots of all texts of its component. -/
theorem slots_of_preview {component : NodeKey} {preview : Preview}
    (member : component ∈ project.components) (made : project.preview component = .ok preview) :
    preview.slots = (project.textsBelow component).map project.scene.slotName := by
  rcases (mem_components_iff component).mp member with ⟨main, valid, isComponent⟩
  have below := ((preview_eq_ok_iff component preview).mp made).1
  cases component with
  | mk file index =>
      cases main
      have held := (project.scene.document .main).holds valid
      have noText := isText_eq_false_of_isComponent isComponent
      rw [textsBelow_eq held, textsAmong_of_no_text held noText]
      exact slotsOf_of_previewNodesFrom held.below below

theorem fillsSlots_of_preview {component : NodeKey} {preview : Preview}
    (member : component ∈ project.components) (made : project.preview component = .ok preview) :
    project.FillsSlots component preview := by
  have valid := ((mem_components_iff component).mp member).2.1
  rcases (preview_eq_ok_iff component preview).mp made with ⟨_, referred, _, previewTag⟩
  have tag := ((previewReference_eq_ok_iff _ _ _ _).mp referred).2.1
  have props := props_of_own_reference valid referred
  have read := slots_of_preview member made
  refine ⟨tag.trans previewTag.symm, read, slotsInLines_declarationLines member made,
    usageLine_of_preview valid made, ?_, ?_, ?_⟩
  · rw [read]
    exact nodup_slotNames valid
  · rw [read, props, List.map_map]
    rfl
  · rw [props, List.forall₂_map_right_iff, List.forall₂_same]
    intro text member
    rcases exists_characters ((mem_textsBelow_iff valid text).mp member).2 with ⟨characters, found⟩
    refine ⟨characters, found, ?_⟩
    rw [TextProp.pieces, textValue, found]
    rfl

/-- Where a project has markup with previews, the lines of every preview are among it,
and the usage of the preview fills exactly the slots that its declaration reads. -/
theorem previews_fill_slots {markup : String} (translated : project.translate.outcome = .ok markup)
    (wanted : project.options.previews = true) :
    Exists fun page => project.page.outcome = .ok page ∧
      page.markup? project.options = .ok markup ∧ markup = page.text project.options ∧
      List.Forall₂ project.FillsSlots project.components page.allPreviews := by
  rcases exists_page_of_translate translated with ⟨page, written, text, spelled⟩
  refine ⟨page, written, text, spelled, ?_⟩
  have all := allPreviews_of_page written
  rw [if_pos wanted] at all
  rw [List.forall₂_iff_zip] at all ⊢
  refine ⟨all.1, ?_⟩
  intro component preview paired
  exact fillsSlots_of_preview (List.of_mem_zip paired).1 (all.2 paired)

/-- A component with one text of its own, one in a group, and one in a component
inside. -/
def nestedLabels : Project :=
  singleComponent
    [ .leaf "1:2" "Label" (.text "x" .blank .blank),
      .container "1:3" "Row" .group [.leaf "1:4" "Label" (.text "<y>" .blank .blank)],
      .container "1:5" "Chip" (.component false .blank)
        [.leaf "1:6" "Label" (.text "z" .blank .blank)] ]

/-- Its texts are read and filled in once each, whether they are shown or handed
on. -/
theorem nestedLabels_slots_filled :
    Exists fun page => nestedLabels.page.outcome = .ok page ∧
      List.Forall₂ nestedLabels.FillsSlots nestedLabels.components page.allPreviews ∧
      page.allPreviews.map Preview.slots =
        [ ["card_label_text", "card_label2_text", "card_chip_label3_text"],
          ["card_chip_label3_text"] ] := by
  have ended : nestedLabels.page.outcome.isOk = true := by decide +kernel
  rcases exists_translate_iff.mpr ended with ⟨markup, translated⟩
  rcases previews_fill_slots translated rfl with ⟨page, written, _, _, filled⟩
  refine ⟨page, written, filled, ?_⟩
  have read : nestedLabels.components.map (fun component =>
      (nestedLabels.textsBelow component).map nestedLabels.scene.slotName) =
        page.allPreviews.map Preview.slots := by
    rw [← List.forall₂_eq_eq_eq, List.forall₂_map_left_iff, List.forall₂_map_right_iff]
    exact filled.imp fun _ _ fills => fills.read.symm
  rw [← read]
  decide +kernel

end Project
end SceneMarkup

import SceneMarkup.Proofs.Index.Lookup
import SceneMarkup.Proofs.Markup.Blocks

namespace SceneMarkup

open Piece

/-!
# Previews as values

A preview is written step by step, with what is still to be done on a stack.  Here
it is a value first: every node becomes a part of the preview, made from the parts
of its children, and a part is written as a whole.

The stack does the same.  A node on top of it is dealt with along with everything
below that node before the rest of the stack, and leaves behind what its part is in
full.  Parts are balanced, so the end of a block never fails.

There are three ways in which a part is made, and what each of them keeps up holds of
all parts (`PartsKeep`).
-/

/-- A part of a preview. -/
inductive PreviewNode where
  | reference (target : PreviewReference)
  | text (tag : String) (value : TextValue)
  | element (tag : String) (children : List PreviewNode)
  deriving Repr

/-- The preview of a component: its declaration and the usage behind it. -/
structure Preview where
  tag : String
  previewTag : String
  children : List PreviewNode
  usage : PreviewReference

namespace PreviewNode

mutual

/-- A part of a preview in full. -/
def pieces (layout : String) : PreviewNode -> List Piece
  | .reference target => target.pieces layout
  | .text tag value =>
      Piece.texts ["<", tag, layout, ">\n"] ++ Piece.block value.linePieces
        ++ Piece.texts ["</", tag, ">\n"]
  | .element tag children =>
      Piece.texts ["<", tag, layout, ">\n"] ++ Piece.block (piecesOf layout children)
        ++ Piece.texts ["</", tag, ">\n"]

/-- Parts of a preview in full, one after the other. -/
def piecesOf (layout : String) : List PreviewNode -> List Piece
  | [] => []
  | node :: rest => pieces layout node ++ piecesOf layout rest

end

end PreviewNode

/-- A preview in full: its declaration and its usage. -/
def Preview.pieces (options : Options) (preview : Preview) : List Piece :=
  let inside := previewLayoutAttribute options true
  Piece.texts
      [ "<", preview.tag, " export component as=\"", preview.previewTag, "\"", inside,
        " \x7bclassName\x7d", ">\n" ]
    ++ Piece.block (PreviewNode.piecesOf inside preview.children)
    ++ Piece.texts ["</", preview.tag, ">\n", "\n"]
    ++ preview.usage.pieces (previewLayoutAttribute options false)
    ++ [.text "\n"]

namespace PreviewNode

mutual

theorem balanced_pieces (layout : String) : (node : PreviewNode) -> Balanced (node.pieces layout)
  | .reference target => by
      rw [pieces]
      exact target.balanced_pieces layout
  | .text tag value => by
      rw [pieces]
      repeat' with_reducible apply balanced_append
      · exact balanced_texts _
      · exact balanced_block value.balanced_linePieces
      · exact balanced_texts _
  | .element tag children => by
      rw [pieces]
      repeat' with_reducible apply balanced_append
      · exact balanced_texts _
      · exact balanced_block (balanced_piecesOf layout children)
      · exact balanced_texts _

theorem balanced_piecesOf (layout : String) :
    (nodes : List PreviewNode) -> Balanced (piecesOf layout nodes)
  | [] => by
      rw [piecesOf]
      exact balanced_nil
  | node :: rest => by
      rw [piecesOf]
      exact balanced_append (balanced_pieces layout node) (balanced_piecesOf layout rest)

end

end PreviewNode

theorem Preview.balanced_pieces (options : Options) (preview : Preview) :
    Balanced (preview.pieces options) := by
  rw [pieces]
  repeat' with_reducible apply balanced_append
  · exact balanced_texts _
  · exact balanced_block (PreviewNode.balanced_piecesOf _ preview.children)
  · exact balanced_texts _
  · exact preview.usage.balanced_pieces _
  · exact balanced_text _

namespace Project

mutual

/-- The part of a preview that a node becomes, given its position. -/
def previewNodeAt (project : Project) (index : Nat) : Node -> Except Fault PreviewNode
  | .leaf id name kind =>
      let key : NodeKey := ⟨.main, index⟩
      if (Node.leaf id name kind).isText then
        .ok (.text (project.scene.tagName key) (project.textValue true key))
      else .ok (.element (project.scene.tagName key) [])
  | .container _ _ kind children =>
      let key : NodeKey := ⟨.main, index⟩
      match kind with
      | .placement _ _ _ => do
          let component ← project.resolveComponent key
          let target ← project.previewReference key component true
          return .reference target
      | .component _ _ => do
          let target ← project.previewReference key key true
          return .reference target
      | _ => do
          let below ← previewNodesFrom project (index + 1) children
          return .element (project.scene.tagName key) below

/-- The parts of a preview that siblings become, the first of which is at
`next`. -/
def previewNodesFrom (project : Project) (next : Nat) :
    List Node -> Except Fault (List PreviewNode)
  | [] => return []
  | node :: rest => do
      let first ← previewNodeAt project next node
      let others ← previewNodesFrom project (next + node.size) rest
      return first :: others

end

/-- The preview of a component. -/
def preview (project : Project) (key : NodeKey) : Except Fault Preview := do
  let children ← project.previewNodesFrom (key.index + 1) (project.node key).children
  let usage ← project.previewReference key key false
  return ⟨project.scene.tagName key, project.scene.previewTagName key, children, usage⟩

/-- The previews of all components, in order. -/
def previews (project : Project) : Except Fault (List Preview) :=
  project.components.mapM project.preview

/-! ## Parts by address -/

mutual

/-- The part of a preview that a node becomes, inside the declaration of a preview
or outside. -/
def previewPart (project : Project) (inDeclaration : Bool) (key : NodeKey) :
    Except Fault PreviewNode := do
  if (project.node key).isInstance then
    let component ← project.resolveComponent key
    let target ← project.previewReference key component inDeclaration
    return .reference target
  else if (project.node key).isComponent then
    let target ← project.previewReference key key inDeclaration
    return .reference target
  else if (project.node key).isText then
    return .text (project.scene.tagName key) (project.textValue inDeclaration key)
  else
    let below ← previewParts project inDeclaration (project.scene.children key)
    return .element (project.scene.tagName key) below
termination_by 2 * (project.scene.node key).size
decreasing_by
  have below := project.scene.weight_children key
  omega

/-- The parts of a preview that nodes become, one after the other. -/
def previewParts (project : Project) (inDeclaration : Bool) :
    List NodeKey -> Except Fault (List PreviewNode)
  | [] => return []
  | key :: rest => do
      let first ← previewPart project inDeclaration key
      let others ← previewParts project inDeclaration rest
      return first :: others
termination_by keys => 2 * project.scene.weight keys + 1
decreasing_by
  · rw [Scene.weight]
    omega
  · have below := (project.scene.node key).size_pos
    rw [Scene.weight]
    omega

end

variable {project : Project}

/-! ## What the steps come to -/

/-- A block is left before its element is closed. -/
theorem writePreview_leave (inDeclaration : Bool) (tag : String) (stack : List PreviewStep) :
    project.writePreview inDeclaration (.leave :: .close tag :: stack) = fun writer =>
      writer.exit? >>= fun left =>
        left.putAll? (closingPieces tag) >>= project.writePreview inDeclaration stack := by
  funext writer
  simp only [writePreview]

mutual

/-- A node on top of the stack is written as a whole before the rest of the stack. -/
theorem writePreview_node (inDeclaration : Bool) (stack : List PreviewStep) (writer : Writer)
    (key : NodeKey) :
    project.writePreview inDeclaration (.node key :: stack) writer =
      project.previewPart inDeclaration key >>= fun part =>
        writer.putAll? (part.pieces (previewLayoutAttribute project.options inDeclaration)) >>=
          project.writePreview inDeclaration stack := by
  rw [writePreview, previewPart]
  split
  · simp only [writeReference, bind_assoc, pure_bind, PreviewNode.pieces]
  split
  · simp only [writeReference, bind_assoc, pure_bind, PreviewNode.pieces]
  -- The line that opens the element comes before any fault below it, and never fails.
  rcases balanced_texts ["<", project.scene.tagName key,
    previewLayoutAttribute project.options inDeclaration, ">\n"] writer with ⟨opened, put, _⟩
  simp only [openingPieces, put]
  rw [Fault.ok_bind, writePreview]
  split
  · simp only [pure_bind, PreviewNode.pieces, Writer.putAll?_append, put, Writer.putAll?_block,
      Fault.ok_bind, bind_assoc, writePreview_leave, closingPieces]
  · rw [writePreview_nodes inDeclaration _ opened.enter (project.scene.children key)]
    simp only [pure_bind, PreviewNode.pieces, Writer.putAll?_append, put, Writer.putAll?_block,
      Fault.ok_bind, bind_assoc, writePreview_leave, closingPieces]
termination_by 2 * (project.scene.node key).size
decreasing_by
  have below := project.scene.weight_children key
  omega

/-- The same of several nodes on top of the stack. -/
theorem writePreview_nodes (inDeclaration : Bool) (stack : List PreviewStep) (writer : Writer) :
    (keys : List NodeKey) ->
    project.writePreview inDeclaration (keys.map .node ++ stack) writer =
      project.previewParts inDeclaration keys >>= fun parts =>
        writer.putAll?
            (PreviewNode.piecesOf (previewLayoutAttribute project.options inDeclaration) parts) >>=
          project.writePreview inDeclaration stack
  | [] => by
      rw [previewParts]
      rfl
  | key :: rest => by
      rw [List.map_cons, List.cons_append, writePreview_node inDeclaration _ writer key,
        previewParts, bind_assoc]
      congr 1
      funext part
      rcases PreviewNode.balanced_pieces
        (previewLayoutAttribute project.options inDeclaration) part writer with ⟨after, put, _⟩
      rw [put, Fault.ok_bind, writePreview_nodes inDeclaration stack after rest]
      simp only [put, Fault.ok_bind, bind_assoc, pure_bind, PreviewNode.piecesOf,
        Writer.putAll?_append]
termination_by keys => 2 * project.scene.weight keys + 1
decreasing_by
  · rw [Scene.weight]
    omega
  · have below := (project.scene.node key).size_pos
    rw [Scene.weight]
    omega

end

/-! ## Parts by position -/

mutual

/-- In the document itself, positions and addresses give the same parts. -/
theorem previewNodeAt_eq {index : Nat} {trail : List Step} : {node : Node} ->
    (project.scene.document .main).Holds index trail node ->
      project.previewNodeAt index node = project.previewPart true ⟨.main, index⟩
  | .leaf id name kind, held => by
      have here : project.node ⟨.main, index⟩ = .leaf id name kind := held.node_eq
      have alone : project.scene.children ⟨.main, index⟩ = [] := by
        rw [Scene.children, held.children_eq]
        rfl
      rw [previewNodeAt, previewPart, here, alone, previewParts]
      cases kind with
      | shape outline layer => cases outline <;> rfl
      | rectangle cornerRadius layer => rfl
      | text characters style layer => rfl
  | .container id name kind children, held => by
      have here : project.node ⟨.main, index⟩ = .container id name kind children := held.node_eq
      have inside : project.scene.children ⟨.main, index⟩ =
          ((project.scene.document .main).siblings (index + 1) children).map
            (NodeKey.mk .main) := by
        rw [Scene.children, held.children_eq]
        rfl
      have below := previewNodesFrom_eq held.below
      rw [Node.children] at below
      rw [previewPart, here, inside, ← below]
      cases kind <;> simp only [previewNodeAt] <;> rfl

/-- The same of siblings. -/
theorem previewNodesFrom_eq {next parent branch : Nat} {trail : List Step} :
    {nodes : List Node} ->
    (project.scene.document .main).HoldsBelow next parent branch trail nodes ->
      project.previewNodesFrom next nodes =
        project.previewParts true
          (((project.scene.document .main).siblings next nodes).map (NodeKey.mk .main))
  | [], held => by
      rw [previewNodesFrom, Document.siblings, List.map_nil, previewParts]
  | node :: rest, held => by
      rw [previewNodesFrom, Document.siblings, held.head.stop_eq, List.map_cons, previewParts,
        previewNodeAt_eq held.head, previewNodesFrom_eq held.tail]

end

theorem previewNodesFrom_children {key : NodeKey} (main : key.file = .main)
    (valid : project.scene.IsNode key) :
    project.previewNodesFrom (key.index + 1) (project.node key).children =
      project.previewParts true (project.scene.children key) := by
  rcases key with ⟨file, index⟩
  subst main
  have held := (project.scene.document .main).holds valid
  rw [Scene.children, held.children_eq]
  exact previewNodesFrom_eq held.below

/-! ## References -/

/-- The node in a component that is at the place of a node in an instance. -/
def counterpart? (project : Project) (instanceKey component text : NodeKey) : Option NodeKey :=
  (project.scene.path? text instanceKey).bind fun path => project.scene.follow? path component

theorem textProp_eq_ok_iff (instanceKey component text : NodeKey) (inDeclaration : Bool)
    (prop : TextProp) :
    project.textProp instanceKey component inDeclaration text = .ok prop ↔
      Exists fun source => project.counterpart? instanceKey component text = some source ∧
        prop = ⟨project.scene.uniqueName source, project.textValue inDeclaration text⟩ := by
  unfold textProp counterpart?
  dsimp only
  cases (project.scene.path? text instanceKey).bind fun path =>
      project.scene.follow? path component with
  | none =>
      constructor
      · intro impossible
        cases impossible
      · rintro ⟨source, impossible, _⟩
        cases impossible
  | some source =>
      simp only [Except.ok.injEq, Option.some.injEq, exists_eq_left']
      exact eq_comm

/-- A reference has one prop for every text inside the instance, in order. -/
theorem previewReference_eq_ok_iff (instanceKey component : NodeKey) (inDeclaration : Bool)
    (target : PreviewReference) :
    project.previewReference instanceKey component inDeclaration = .ok target ↔
      List.Forall₂
          (fun text prop => project.textProp instanceKey component inDeclaration text = .ok prop)
          (project.textsBelow instanceKey) target.props ∧
        target.tag = project.scene.previewTagName component ∧
        target.className =
          if instanceKey = component then project.scene.previewClassName instanceKey
          else project.scene.className instanceKey := by
  rw [previewReference, ← Fault.mapM_eq_ok_iff]
  constructor
  · intro referred
    cases made : (project.textsBelow instanceKey).mapM
        (project.textProp instanceKey component inDeclaration) with
    | error fault =>
        rw [made] at referred
        cases referred
    | ok props =>
        rw [made] at referred
        rw [← Except.ok.inj referred]
        exact ⟨rfl, rfl, rfl⟩
  · rintro ⟨made, tag, className⟩
    rw [made]
    change Except.ok _ = _
    rw [← tag, ← className]

/-! ## What holds of parts -/

/-- Two properties, of a part and of parts in a row, that every step of the making of
parts keeps up. -/
structure PartsKeep (project : Project) (inDeclaration : Bool) (keeps : PreviewNode -> Prop)
    (keepAll : List PreviewNode -> Prop) : Prop where
  reference : forall {instanceKey component target},
    project.previewReference instanceKey component inDeclaration = .ok target ->
      keeps (.reference target)
  text : forall key,
    keeps (.text (project.scene.tagName key) (project.textValue inDeclaration key))
  element : forall key {children}, keepAll children ->
    keeps (.element (project.scene.tagName key) children)
  nil : keepAll []
  cons : forall {node rest}, keeps node -> keepAll rest -> keepAll (node :: rest)

namespace PartsKeep

variable {inDeclaration : Bool} {keeps : PreviewNode -> Prop}
  {keepAll : List PreviewNode -> Prop}

mutual

/-- What every step keeps up holds of the part that a node becomes. -/
theorem of_part (kept : project.PartsKeep inDeclaration keeps keepAll) (key : NodeKey)
    {part : PreviewNode} (made : project.previewPart inDeclaration key = .ok part) :
    keeps part := by
  rw [previewPart] at made
  split at made
  · rcases (Fault.bind_eq_ok_iff _ _ _).mp made with ⟨component, _, rest⟩
    rcases (Fault.bind_eq_ok_iff _ _ _).mp rest with ⟨target, referred, whole⟩
    exact Except.ok.inj whole ▸ kept.reference referred
  split at made
  · rcases (Fault.bind_eq_ok_iff _ _ _).mp made with ⟨target, referred, whole⟩
    exact Except.ok.inj whole ▸ kept.reference referred
  split at made
  · exact Except.ok.inj made ▸ kept.text key
  · rcases (Fault.bind_eq_ok_iff _ _ _).mp made with ⟨children, below, whole⟩
    exact Except.ok.inj whole ▸ kept.element key (of_parts kept (project.scene.children key) below)
termination_by 2 * (project.scene.node key).size
decreasing_by
  have below := project.scene.weight_children key
  omega

/-- The same of the parts that nodes become, one after the other. -/
theorem of_parts (kept : project.PartsKeep inDeclaration keeps keepAll) :
    (keys : List NodeKey) -> {parts : List PreviewNode} ->
      project.previewParts inDeclaration keys = .ok parts -> keepAll parts
  | [], parts, made => by
      rw [previewParts] at made
      exact Except.ok.inj made ▸ kept.nil
  | key :: rest, parts, made => by
      rw [previewParts] at made
      rcases (Fault.bind_eq_ok_iff _ _ _).mp made with ⟨first, head, tail⟩
      rcases (Fault.bind_eq_ok_iff _ _ _).mp tail with ⟨others, below, whole⟩
      exact Except.ok.inj whole ▸ kept.cons (of_part kept key head) (of_parts kept rest below)
termination_by keys => 2 * project.scene.weight keys + 1
decreasing_by
  · rw [Scene.weight]
    omega
  · have below := (project.scene.node key).size_pos
    rw [Scene.weight]
    omega

end

end PartsKeep

/-! ## Previews of components -/

theorem isInstance_eq_false_of_isComponent {node : Node} (component : node.isComponent = true) :
    node.isInstance = false := by
  rw [Node.isComponent, beq_iff_eq] at component
  rw [Node.isInstance, component]
  rfl

theorem isText_eq_false_of_isComponent {node : Node} (component : node.isComponent = true) :
    node.isText = false := by
  rw [Node.isComponent, beq_iff_eq] at component
  rw [Node.isText, component]
  rfl

theorem writePreview_nil (inDeclaration : Bool) :
    project.writePreview inDeclaration [] = pure := by
  funext writer
  rw [writePreview]
  rfl

/-- What a node other than a text holds is a block. -/
theorem writePreview_content {key : NodeKey} (noText : (project.node key).isText = false)
    (inDeclaration : Bool) (writer : Writer) :
    project.writePreview inDeclaration [.content key] writer =
      project.previewParts inDeclaration (project.scene.children key) >>= fun parts =>
        writer.putAll? (block (PreviewNode.piecesOf
          (previewLayoutAttribute project.options inDeclaration) parts)) := by
  have leaves : project.writePreview inDeclaration [.leave] = Writer.exit? := by
    funext last
    rw [writePreview, writePreview_nil, bind_pure]
  rw [writePreview, if_neg (Bool.eq_false_iff.mp noText), writePreview_nodes, leaves]
  simp only [Writer.putAll?_block]

/-- A component is used by a reference to its preview. -/
theorem writePreview_component {component : NodeKey}
    (isComponent : (project.node component).isComponent = true) (inDeclaration : Bool)
    (writer : Writer) :
    project.writePreview inDeclaration [.node component] writer =
      project.previewReference component component inDeclaration >>= fun target =>
        writer.putAll? (target.pieces (previewLayoutAttribute project.options inDeclaration)) := by
  have noInstance := isInstance_eq_false_of_isComponent isComponent
  rw [writePreview_node, previewPart, if_neg (Bool.eq_false_iff.mp noInstance), if_pos isComponent,
    bind_assoc]
  simp only [pure_bind, PreviewNode.pieces, writePreview_nil, bind_pure]

/-- The declaration of a preview is written around the parts of the component's
children. -/
theorem declarePreview_eq {component : NodeKey}
    (noText : (project.node component).isText = false) (writer : Writer) :
    project.declarePreview component writer =
      project.previewParts true (project.scene.children component) >>= fun parts =>
        writer.putAll? (texts
            [ "<", project.scene.tagName component, " export component as=\"",
              project.scene.previewTagName component, "\"",
              previewLayoutAttribute project.options true, " \x7bclassName\x7d", ">\n" ]
          ++ block (PreviewNode.piecesOf (previewLayoutAttribute project.options true) parts)
          ++ texts ["</", project.scene.tagName component, ">\n", "\n"]) := by
  -- The opening line comes before any fault in the preview, and never fails.
  rcases balanced_texts
    [ "<", project.scene.tagName component, " export component as=\"",
      project.scene.previewTagName component, "\"", previewLayoutAttribute project.options true,
      " \x7bclassName\x7d", ">\n" ] writer with ⟨opened, put, _⟩
  simp only [declarePreview, put, Fault.ok_bind, writePreview_content noText, bind_assoc,
    Writer.putAll?_append]

theorem writeComponentPreview_eq {component : NodeKey} (member : component ∈ project.components)
    (writer : Writer) :
    project.writeComponentPreview writer component =
      project.preview component >>= fun preview =>
        writer.putAll? (preview.pieces project.options) := by
  rcases (mem_components_iff component).mp member with ⟨main, valid, isComponent⟩
  rw [writeComponentPreview, declarePreview_eq (isText_eq_false_of_isComponent isComponent),
    preview, previewNodesFrom_children main valid]
  simp only [bind_assoc]
  congr 1
  funext parts
  generalize declares : texts _ ++ block _ ++ texts _ = declaration
  have declared : Balanced declaration := by
    rw [← declares]
    exact balanced_append (balanced_append (balanced_texts _)
      (balanced_block (PreviewNode.balanced_piecesOf _ parts))) (balanced_texts _)
  rcases declared writer with ⟨after, put, _⟩
  simp only [put, Fault.ok_bind, writePreview_component isComponent, bind_assoc, pure_bind]
  congr 1
  funext usage
  rw [Preview.pieces, Writer.putAll?_append, Writer.putAll?_append, declares, put, Fault.ok_bind]

/-- The previews are written one after the other. -/
theorem foldlM_writeComponentPreview {components : List NodeKey}
    (members : forall component, component ∈ components -> component ∈ project.components)
    (writer : Writer) :
    components.foldlM project.writeComponentPreview writer =
      components.mapM project.preview >>= fun previews =>
        writer.putAll? (previews.flatMap (Preview.pieces project.options)) := by
  induction components generalizing writer with
  | nil => rfl
  | cons component rest ih =>
      rw [List.foldlM_cons, writeComponentPreview_eq (members component List.mem_cons_self),
        List.mapM_cons]
      simp only [bind_assoc, pure_bind]
      congr 1
      funext preview
      rcases preview.balanced_pieces project.options writer with ⟨after, put, _⟩
      rw [put, Fault.ok_bind, ih fun other member => members other (List.mem_cons_of_mem _ member)]
      simp only [List.flatMap_cons, Writer.putAll?_append, put, Fault.ok_bind]

theorem writePreviews_eq (writer : Writer) :
    project.writePreviews writer =
      project.previews >>= fun previews =>
        writer.putAll? (previews.flatMap (Preview.pieces project.options)) :=
  foldlM_writeComponentPreview (fun _ member => member) writer

end Project
end SceneMarkup

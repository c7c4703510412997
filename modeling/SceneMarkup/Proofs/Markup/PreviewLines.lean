import SceneMarkup.Proofs.Markup.PreviewParts
import SceneMarkup.Proofs.Markup.Unbroken

namespace SceneMarkup

open Piece

/-!
# The lines of a preview

Seen as lines, a preview follows the tree.  An instance or a component is one line, a
reference that closes itself.  Any other node is a line that opens its element, what it
holds one level deeper, and a line that closes the element again: a text holds one
line, and everything else holds the lines of its children in order.

Nothing that goes into a line can break it, because names are spelled from letters and
characters are escaped.  The writer therefore adds exactly these lines, wherever the
steps on the stack have cut them into fragments.
-/

/-! ## Parts and their lines -/

/-- The line between the tags of a text. -/
def TextValue.line : TextValue -> String
  | .slot name => "\x7b" ++ name ++ "_text\x7d"
  | .literal characters => Escape.text characters

/-- What is written in a reference for a text handed to a slot. -/
def TextProp.assignment (prop : TextProp) : String :=
  match prop.value with
  | .slot name => " " ++ prop.slot ++ "_text=\x7b" ++ name ++ "_text\x7d"
  | .literal characters =>
      " " ++ prop.slot ++ "_text=\x7b<fragment>" ++ Escape.text characters ++ "</fragment>\x7d"

/-- A reference on its line. -/
def PreviewReference.line (layout : String) (reference : PreviewReference) : String :=
  "<" ++ reference.tag ++ layout ++ " className=\"" ++ reference.className ++ "\""
    ++ String.join (reference.props.map TextProp.assignment) ++ " />"

namespace PreviewNode

/-- The tag that begins an element. -/
def opening (layout tag : String) : String :=
  "<" ++ tag ++ layout ++ ">"

/-- The tag that ends an element. -/
def closing (tag : String) : String :=
  "</" ++ tag ++ ">"

mutual

/-- The lines of a part at a depth. -/
def lines (layout : String) (depth : Nat) : PreviewNode -> List Line
  | .reference target => [⟨depth, target.line layout⟩]
  | .text tag value =>
      [⟨depth, opening layout tag⟩, ⟨depth + 1, value.line⟩, ⟨depth, closing tag⟩]
  | .element tag children =>
      ⟨depth, opening layout tag⟩ :: linesOf layout (depth + 1) children
        ++ [⟨depth, closing tag⟩]

/-- The lines of parts, one after the other. -/
def linesOf (layout : String) (depth : Nat) : List PreviewNode -> List Line
  | [] => []
  | node :: rest => lines layout depth node ++ linesOf layout depth rest

end

end PreviewNode

/-! ## Writing lines -/

theorem TextValue.writesLines_linePieces (value : TextValue) (depth : Nat)
    (unbroken : Unbroken value.line) :
    WritesLines value.linePieces depth [⟨depth, value.line⟩] := by
  cases value with
  | slot name => exact writesLines_texts depth ["\x7b", name] "_text\x7d" (by rfl) unbroken
  | literal characters =>
      have whole : String.join [Escape.text characters] ++ "" = Escape.text characters := by
        rw [String.join_cons, String.join_nil, String.append_empty, String.append_empty]
      exact writesLines_texts depth [Escape.text characters] "" whole unbroken

/-- A text handed to a slot, fragment by fragment. -/
def TextProp.fragments (prop : TextProp) : List String :=
  match prop.value with
  | .slot name => [" ", prop.slot, "_text=\x7b", name, "_text\x7d"]
  | .literal characters =>
      [" ", prop.slot, "_text=\x7b<fragment>", Escape.text characters, "</fragment>\x7d"]

theorem TextProp.pieces_eq (prop : TextProp) : prop.pieces = texts prop.fragments := by
  rw [pieces, fragments]
  cases prop.value <;> rfl

theorem TextProp.join_fragments (prop : TextProp) :
    String.join prop.fragments = prop.assignment := by
  rw [fragments, assignment]
  cases prop.value <;> simp [String.join_cons, String.append_assoc]

theorem PreviewReference.writesLines_pieces (layout : String) (reference : PreviewReference)
    (depth : Nat) (unbroken : Unbroken (reference.line layout)) :
    WritesLines (reference.pieces layout) depth [⟨depth, reference.line layout⟩] := by
  have props : String.join (reference.props.flatMap TextProp.fragments) =
      String.join (reference.props.map TextProp.assignment) := by
    induction reference.props with
    | nil => rfl
    | cons prop rest ih =>
        rw [List.flatMap_cons, String.join_append, ih, prop.join_fragments, List.map_cons,
          String.join_cons]
  have cut : reference.pieces layout = texts (["<", reference.tag, layout, " className=\"",
      reference.className, "\""] ++ reference.props.flatMap TextProp.fragments
        ++ [" />" ++ "\n"]) := by
    have each := funext TextProp.pieces_eq
    rw [pieces, each, texts, texts, List.map_append, List.map_append, List.map_flatMap]
    rfl
  rw [cut]
  apply writesLines_texts depth _ " />" _ unbroken
  rw [String.join_append, props, line]
  simp [String.join_cons, String.append_assoc]

namespace PreviewNode

theorem writesLines_opening (layout tag : String) (depth : Nat)
    (unbroken : Unbroken (opening layout tag)) :
    WritesLines (texts ["<", tag, layout, ">\n"]) depth [⟨depth, opening layout tag⟩] := by
  apply writesLines_texts depth ["<", tag, layout] ">" _ unbroken
  simp [opening, String.join_cons, String.append_assoc]

theorem writesLines_closing (tag : String) (depth : Nat) (unbroken : Unbroken (closing tag)) :
    WritesLines (texts ["</", tag, ">\n"]) depth [⟨depth, closing tag⟩] := by
  apply writesLines_texts depth ["</", tag] ">" _ unbroken
  simp [closing, String.join_cons, String.append_assoc]

mutual

/-- A part whose lines are unbroken is written as these lines. -/
theorem writesLines_pieces (layout : String) (depth : Nat) : (node : PreviewNode) ->
    (forall line, line ∈ node.lines layout depth -> Unbroken line.text) ->
      WritesLines (node.pieces layout) depth (node.lines layout depth)
  | .reference target, unbroken => by
      rw [pieces, lines]
      rw [lines, List.forall_mem_singleton] at unbroken
      exact target.writesLines_pieces layout depth unbroken
  | .text tag value, unbroken => by
      rw [lines] at unbroken ⊢
      simp only [List.forall_mem_cons] at unbroken
      rw [pieces]
      exact ((writesLines_opening layout tag depth unbroken.1).append
        (value.writesLines_linePieces (depth + 1) unbroken.2.1).block).append
          (writesLines_closing tag depth unbroken.2.2.1)
  | .element tag children, unbroken => by
      rw [lines] at unbroken ⊢
      rw [List.forall_mem_append, List.forall_mem_cons, List.forall_mem_singleton] at unbroken
      rw [pieces]
      exact ((writesLines_opening layout tag depth unbroken.1.1).append
        (writesLines_piecesOf layout (depth + 1) children unbroken.1.2).block).append
          (writesLines_closing tag depth unbroken.2)

theorem writesLines_piecesOf (layout : String) (depth : Nat) : (nodes : List PreviewNode) ->
    (forall line, line ∈ linesOf layout depth nodes -> Unbroken line.text) ->
      WritesLines (piecesOf layout nodes) depth (linesOf layout depth nodes)
  | [], _ => writesLines_nil depth
  | node :: rest, unbroken => by
      rw [linesOf] at unbroken ⊢
      rw [List.forall_mem_append] at unbroken
      rw [piecesOf]
      exact (writesLines_pieces layout depth node unbroken.1).append
        (writesLines_piecesOf layout depth rest unbroken.2)

end

end PreviewNode

/-! ## The lines of a project -/

namespace Project

variable {project : Project}

theorem textValue_line_unbroken (project : Project) (inDeclaration : Bool) (key : NodeKey) :
    Unbroken (project.textValue inDeclaration key).line := by
  rw [textValue]
  split
  · rw [TextValue.line, unbroken_append_iff, unbroken_append_iff]
    exact ⟨⟨rfl, unbroken_of_class (Scene.uniqueName_letters _ key)⟩, rfl⟩
  · exact Escape.text_unbroken _

theorem assignment_unbroken {instanceKey component text : NodeKey} {inDeclaration : Bool}
    {prop : TextProp}
    (made : project.textProp instanceKey component inDeclaration text = .ok prop) :
    Unbroken prop.assignment := by
  rcases (textProp_eq_ok_iff _ _ _ _ _).mp made with ⟨source, _, same⟩
  have named (key : NodeKey) : Unbroken (project.scene.uniqueName key) :=
    unbroken_of_class (Scene.uniqueName_letters _ key)
  rw [same, TextProp.assignment, textValue]
  cases inDeclaration with
  | true =>
      simp only [if_true, unbroken_append_iff]
      exact ⟨⟨⟨⟨rfl, named source⟩, rfl⟩, named text⟩, rfl⟩
  | false =>
      simp only [Bool.false_eq_true, if_false, unbroken_append_iff]
      exact ⟨⟨⟨⟨rfl, named source⟩, rfl⟩, Escape.text_unbroken _⟩, rfl⟩

theorem reference_line_unbroken {instanceKey component : NodeKey} {inDeclaration : Bool}
    {target : PreviewReference}
    (referred : project.previewReference instanceKey component inDeclaration = .ok target)
    {layout : String} (plain : Unbroken layout) : Unbroken (target.line layout) := by
  rcases (previewReference_eq_ok_iff _ _ _ _).mp referred with ⟨props, tag, className⟩
  have classed : Unbroken target.className := by
    rw [className]
    split
    · exact Scene.previewClassName_unbroken _ _
    · exact Scene.className_unbroken _ _
  have assigned : Unbroken (String.join (target.props.map TextProp.assignment)) := by
    rw [unbroken_join_iff, List.forall_mem_map]
    intro prop member
    rcases (Fault.mem_of_mapM_eq_ok props prop).mp member with ⟨text, _, made⟩
    exact assignment_unbroken made
  rw [PreviewReference.line, tag]
  simp only [unbroken_append_iff]
  exact ⟨⟨⟨⟨⟨⟨⟨rfl, Scene.previewTagName_unbroken _ _⟩, plain⟩, rfl⟩, classed⟩, rfl⟩, assigned⟩, rfl⟩

theorem opening_unbroken (project : Project) (key : NodeKey) {layout : String}
    (plain : Unbroken layout) :
    Unbroken (PreviewNode.opening layout (project.scene.tagName key)) := by
  simp only [PreviewNode.opening, unbroken_append_iff]
  exact ⟨⟨⟨rfl, Scene.tagName_unbroken _ key⟩, plain⟩, rfl⟩

theorem closing_unbroken (project : Project) (key : NodeKey) :
    Unbroken (PreviewNode.closing (project.scene.tagName key)) := by
  simp only [PreviewNode.closing, unbroken_append_iff]
  exact ⟨⟨rfl, Scene.tagName_unbroken _ key⟩, rfl⟩

/-- No line of a part is broken. -/
theorem lines_unbroken (project : Project) (inDeclaration : Bool) {layout : String}
    (plain : Unbroken layout) :
    project.PartsKeep inDeclaration
      (fun part => forall depth line, line ∈ part.lines layout depth -> Unbroken line.text)
      (fun parts => forall depth line, line ∈ PreviewNode.linesOf layout depth parts ->
        Unbroken line.text) where
  reference referred depth := by
    rw [PreviewNode.lines, List.forall_mem_singleton]
    exact reference_line_unbroken referred plain
  text key depth := by
    rw [PreviewNode.lines]
    simp only [List.forall_mem_cons]
    exact ⟨opening_unbroken project key plain, textValue_line_unbroken project inDeclaration key,
      closing_unbroken project key, nofun⟩
  element key _ below depth := by
    rw [PreviewNode.lines, List.forall_mem_append, List.forall_mem_cons, List.forall_mem_singleton]
    exact ⟨⟨opening_unbroken project key plain, below (depth + 1)⟩, closing_unbroken project key⟩
  nil _ := nofun
  cons first others depth := by
    rw [PreviewNode.linesOf, List.forall_mem_append]
    exact ⟨first depth, others depth⟩

/-! ## Writing a preview -/

/-- The lines of a node in a preview, from a depth on. -/
def rendering (project : Project) (inDeclaration : Bool) (depth : Nat) (key : NodeKey) :
    Except Fault (List Line) := do
  let part ← project.previewPart inDeclaration key
  return part.lines (previewLayoutAttribute project.options inDeclaration) depth

/-- One step down a rendering: the lines of a node, given those of the nodes below it. -/
def renderingOver (project : Project) (inDeclaration : Bool) (depth : Nat)
    (below : NodeKey -> Except Fault (List Line)) (key : NodeKey) : Except Fault (List Line) :=
  let layout := previewLayoutAttribute project.options inDeclaration
  let tag := project.scene.tagName key
  if (project.node key).isInstance then do
    let component ← project.resolveComponent key
    let target ← project.previewReference key component inDeclaration
    return [⟨depth, target.line layout⟩]
  else if (project.node key).isComponent then do
    let target ← project.previewReference key key inDeclaration
    return [⟨depth, target.line layout⟩]
  else if (project.node key).isText then
    return [⟨depth, PreviewNode.opening layout tag⟩,
      ⟨depth + 1, (project.textValue inDeclaration key).line⟩,
      ⟨depth, PreviewNode.closing tag⟩]
  else do
    let inside ← (project.scene.children key).mapM below
    return ⟨depth, PreviewNode.opening layout tag⟩ :: inside.flatten
      ++ [⟨depth, PreviewNode.closing tag⟩]

/-- The lines of parts are those of the nodes, one after the other. -/
theorem linesOf_previewParts (project : Project) (inDeclaration : Bool) (depth : Nat)
    (keys : List NodeKey) :
    (project.previewParts inDeclaration keys >>= fun parts =>
        pure (PreviewNode.linesOf (previewLayoutAttribute project.options inDeclaration) depth
          parts)) =
      keys.mapM (project.rendering inDeclaration depth) >>= fun lines => pure lines.flatten := by
  induction keys with
  | nil =>
      rw [previewParts, List.mapM_nil, pure_bind, pure_bind, PreviewNode.linesOf, List.flatten_nil]
  | cons key rest ih =>
      have behind (first : List Line) := congrArg (· >>= fun below => pure (first ++ below)) ih
      simp only [bind_assoc, pure_bind] at behind
      rw [previewParts, List.mapM_cons, rendering]
      simp only [bind_assoc, pure_bind, PreviewNode.linesOf, List.flatten_cons, behind]

/-- A rendering goes down the tree. -/
theorem rendering_eq (project : Project) (inDeclaration : Bool) (depth : Nat) (key : NodeKey) :
    project.rendering inDeclaration depth key =
      project.renderingOver inDeclaration depth (project.rendering inDeclaration (depth + 1))
        key := by
  rw [rendering, renderingOver, previewPart]
  split
  · simp only [bind_assoc, pure_bind, PreviewNode.lines]
  split
  · simp only [bind_assoc, pure_bind, PreviewNode.lines]
  split
  · simp only [pure_bind, PreviewNode.lines]
  · have below := congrArg (· >>= fun inside => pure (⟨depth, PreviewNode.opening
        (previewLayoutAttribute project.options inDeclaration) (project.scene.tagName key)⟩ ::
      inside ++ [⟨depth, PreviewNode.closing (project.scene.tagName key)⟩]))
      (linesOf_previewParts project inDeclaration (depth + 1) (project.scene.children key))
    simp only [bind_assoc, pure_bind] at below
    simp only [bind_assoc, pure_bind, PreviewNode.lines]
    exact below

theorem writePreview_eq_rendering (project : Project) (inDeclaration : Bool) (key : NodeKey)
    (buffer : String) (depth : Nat) :
    project.writePreview inDeclaration [.node key] ⟨buffer, depth, true⟩ =
      (project.rendering inDeclaration depth key).map fun lines =>
        ⟨buffer ++ Line.joined lines, depth, true⟩ := by
  rw [writePreview_node, writePreview_nil, rendering]
  have plain := previewLayoutAttribute_unbroken project.options inDeclaration
  cases made : project.previewPart inDeclaration key with
  | error fault => rfl
  | ok part =>
      have written := part.writesLines_pieces _ depth
        ((lines_unbroken project inDeclaration plain).of_part key made depth)
      rw [Fault.ok_bind, bind_pure, written]
      rfl

end Project
end SceneMarkup

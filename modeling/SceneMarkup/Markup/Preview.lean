import SceneMarkup.Index.Subtrees
import SceneMarkup.Markup.Escape
import SceneMarkup.Markup.Writer
import SceneMarkup.Style.Layer

namespace SceneMarkup

/-!
# Previews

The preview of a component is declared with its texts as slots, and used once
with its own characters in them.  An instance inside a preview refers to the
preview of its component and hands its own texts down through the slots of the
texts at the same places there.  A component inside a preview refers to its own
preview in the same way.
-/

/-- What stands for a text: a slot to be filled in, or its characters. -/
inductive TextValue where
  | slot (name : String)
  | literal (characters : String)
  deriving Repr, BEq, DecidableEq

/-- A text handed to a slot of a preview. -/
structure TextProp where
  slot : String
  value : TextValue
  deriving Repr, BEq, DecidableEq

/-- A reference to the preview of a component. -/
structure PreviewReference where
  tag : String
  className : String
  props : List TextProp
  deriving Repr, BEq, DecidableEq

/-- The attribute that wants positions, handed on inside a declaration. -/
def previewLayoutAttribute (options : Options) (inDeclaration : Bool) : String :=
  if !options.absoluteLayout then ""
  else if inDeclaration then " \x7bwithAbsoluteLayout\x7d"
  else " withAbsoluteLayout"

/-- A text on a line of its own. -/
def TextValue.linePieces : TextValue -> List Piece
  | .slot name => Piece.texts ["\x7b", name, "_text\x7d\n"]
  | .literal characters => Piece.texts [Escape.text characters, "\n"]

/-- A text handed to a slot. -/
def TextProp.pieces (prop : TextProp) : List Piece :=
  match prop.value with
  | .slot name => Piece.texts [" ", prop.slot, "_text=\x7b", name, "_text\x7d"]
  | .literal characters =>
      Piece.texts
        [" ", prop.slot, "_text=\x7b<fragment>", Escape.text characters, "</fragment>\x7d"]

/-- A reference in full, on one line.  `layout` is the attribute that wants
positions. -/
def PreviewReference.pieces (layout : String) (reference : PreviewReference) : List Piece :=
  Piece.texts ["<", reference.tag, layout, " className=\"", reference.className, "\""]
    ++ reference.props.flatMap TextProp.pieces ++ [.text " />\n"]

namespace Project

/-- What stands for a text, inside the declaration of a preview or outside. -/
def textValue (project : Project) (inDeclaration : Bool) (key : NodeKey) : TextValue :=
  if inDeclaration then .slot (project.scene.uniqueName key)
  else .literal ((project.node key).characters?.getD "")

/-- The prop for a text inside an instance: its slot is named after the text at
the same place in the component, which must be there. -/
def textProp (project : Project) (instanceKey component : NodeKey) (inDeclaration : Bool)
    (text : NodeKey) : Except Fault TextProp :=
  let node := project.node text
  let source :=
    (project.scene.path? text instanceKey).bind fun path => project.scene.follow? path component
  match source with
  | none => .error (.structureMismatch node.id node.name (project.node instanceKey).id)
  | some source =>
      .ok ⟨project.scene.uniqueName source, project.textValue inDeclaration text⟩

/-- The texts in the subtree of a node. -/
def textsBelow (project : Project) (key : NodeKey) : List NodeKey :=
  (project.scene.subtree key).filter fun text => (project.node text).isText

/-- A reference to the preview of a component, with a prop for every text inside
the instance.  A component refers to itself as its own instance, and its class
is then the one that places its preview. -/
def previewReference (project : Project) (instanceKey component : NodeKey)
    (inDeclaration : Bool) : Except Fault PreviewReference :=
  let className :=
    if instanceKey = component then project.scene.previewClassName instanceKey
    else project.scene.className instanceKey
  ((project.textsBelow instanceKey).mapM
      (project.textProp instanceKey component inDeclaration)).map fun props =>
    ⟨project.scene.previewTagName component, className, props⟩

/-- What is still to be written of a preview. -/
inductive PreviewStep where
  | node (key : NodeKey)
  | content (key : NodeKey)
  | leave
  | close (tag : String)
  deriving Repr, DecidableEq

namespace PreviewStep

/-- How many steps there are on a stack, with those that they put in their place
later on. -/
def weight (scene : Scene) : List PreviewStep -> Nat
  | [] => 0
  | .node key :: stack => 4 * (scene.node key).size + weight scene stack
  | .content key :: stack => 4 * (scene.node key).size - 2 + weight scene stack
  | .leave :: stack => 1 + weight scene stack
  | .close _ :: stack => 1 + weight scene stack

theorem weight_nodes (scene : Scene) (keys : List NodeKey) (stack : List PreviewStep) :
    weight scene (keys.map .node ++ stack) = 4 * scene.weight keys + weight scene stack := by
  induction keys with
  | nil => simp [Scene.weight]
  | cons key rest ih => rw [List.map_cons, List.cons_append, weight, ih, Scene.weight]; omega

end PreviewStep

/-- The line that opens an element of a preview. -/
def openingPieces (layout tag : String) : List Piece :=
  Piece.texts ["<", tag, layout, ">\n"]

/-- The line that closes an element. -/
def closingPieces (tag : String) : List Piece :=
  Piece.texts ["</", tag, ">\n"]

/-- Write the preview that a node refers to, that of its own component. -/
def writeReference (project : Project) (inDeclaration : Bool) (key component : NodeKey)
    (writer : Writer) : Except Fault Writer := do
  let target ← project.previewReference key component inDeclaration
  writer.putAll? (target.pieces (previewLayoutAttribute project.options inDeclaration))

/-- Go on with the steps on the stack.  An element is opened, and what it holds and
its end take its place; what it holds is a block, whose end waits below the
children. -/
@[semireducible]
def writePreview (project : Project) (inDeclaration : Bool) :
    List PreviewStep -> Writer -> Except Fault Writer
  | [], writer => .ok writer
  | .node key :: stack, writer =>
      if (project.node key).isInstance then do
        let component ← project.resolveComponent key
        let written ← project.writeReference inDeclaration key component writer
        writePreview project inDeclaration stack written
      else if (project.node key).isComponent then do
        let written ← project.writeReference inDeclaration key key writer
        writePreview project inDeclaration stack written
      else do
        let tag := project.scene.tagName key
        let layout := previewLayoutAttribute project.options inDeclaration
        let opened ← writer.putAll? (openingPieces layout tag)
        writePreview project inDeclaration (.content key :: .close tag :: stack) opened
  | .content key :: stack, writer =>
      if (project.node key).isText then do
        let written ← writer.enter.putAll? (project.textValue inDeclaration key).linePieces
        writePreview project inDeclaration (.leave :: stack) written
      else
        writePreview project inDeclaration
          ((project.scene.children key).map .node ++ .leave :: stack) writer.enter
  | .leave :: stack, writer => do
      let left ← writer.exit?
      writePreview project inDeclaration stack left
  | .close tag :: stack, writer => do
      let closed ← writer.putAll? (closingPieces tag)
      writePreview project inDeclaration stack closed
termination_by stack => PreviewStep.weight project.scene stack
decreasing_by
  all_goals simp only [PreviewStep.weight, PreviewStep.weight_nodes]
  -- A node has at least itself; its children have one less.
  all_goals try have below := project.scene.weight_children key
  all_goals omega

/-- Write the declaration of a preview. -/
def declarePreview (project : Project) (component : NodeKey) (writer : Writer) :
    Except Fault Writer := do
  let tag := project.scene.tagName component
  let opened ← writer.putAll? (Piece.texts
    [ "<", tag, " export component as=\"", project.scene.previewTagName component, "\"",
      previewLayoutAttribute project.options true, " \x7bclassName\x7d", ">\n" ])
  let filled ← project.writePreview true [.content component] opened
  filled.putAll? (Piece.texts ["</", tag, ">\n", "\n"])

/-- Write the preview of a component: its declaration and a usage. -/
def writeComponentPreview (project : Project) (writer : Writer) (component : NodeKey) :
    Except Fault Writer := do
  let declared ← project.declarePreview component writer
  let used ← project.writePreview false [.node component] declared
  used.putAll? [.text "\n"]

/-- Write the previews of all components, in order. -/
def writePreviews (project : Project) (writer : Writer) : Except Fault Writer :=
  project.components.foldlM project.writeComponentPreview writer

end Project
end SceneMarkup

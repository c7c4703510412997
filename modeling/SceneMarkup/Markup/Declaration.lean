import SceneMarkup.Index.Subtrees
import SceneMarkup.Markup.Writer
import SceneMarkup.Style.Layer

namespace SceneMarkup

/-!
# Layer declarations

Every layer of a component is declared as a component of its own: an exported
layer as an image, a shape as an empty box of its size, and any other layer as
an element around its children.  What an exported layer or a shape contains is
part of its image, and what an instance contains belongs to its component, so
neither is declared further down.  A component inside a component is declared in
its own turn.
-/

/-- What a layer is declared as. -/
inductive DeclarationBody where
  | image (fileName : String)
  | box (width height : Float)
  | element (name : String)
  deriving Repr

/-- The declaration of a layer. -/
structure Declaration where
  key : NodeKey
  tag : String
  className : String
  body : DeclarationBody

namespace Declaration

/-- The attribute that hands on whether positions are wanted. -/
def layoutAttribute (options : Options) : String :=
  if options.absoluteLayout then "data-with-absolute-layout=\x7bwithAbsoluteLayout?\x7d" else ""

/-- The attribute that adds a class of the user to that of the layer. -/
def classAttribute (className : String) : String :=
  "className=\"" ++ className ++ " \x7bclassName?\x7d\""

/-- A declaration in full. -/
def pieces (options : Options) (declaration : Declaration) : List Piece :=
  let shared :=
    Piece.attribute (layoutAttribute options)
      ++ Piece.attribute (classAttribute declaration.className)
  match declaration.body with
  | .image fileName =>
      Piece.texts
          ["<img export component as=\"", declaration.tag, "\" src=\"./", fileName, "\""]
        ++ shared ++ [.text ">\n\n"]
  | .box width height =>
      Piece.texts ["<div export component as=\"", declaration.tag, "\""] ++ shared
        ++ Piece.attribute
          ("width=\"" ++ Number.unsignedZero width ++ "\" height=\""
            ++ Number.unsignedZero height ++ "\"")
        ++ Piece.texts [">\n", "</div>\n\n"]
  | .element name =>
      Piece.texts ["<", name, " export component as=\"", declaration.tag, "\""] ++ shared
        ++ [.text ">\n"] ++ Piece.block [.text "\x7bchildren\x7d\n"]
        ++ Piece.texts ["</", name, ">\n", "\n"]

end Declaration

namespace Project

/-- The size of a shape: its own, that of its bounding box, or nothing. -/
def shapeSize (layer : Option Layer) : Vector2 :=
  match layer.bind (·.size) with
  | some size => size
  | none =>
      match layer.bind (·.boundingBox) with
      | some box => ⟨box.width, box.height⟩
      | none => ⟨0.0, 0.0⟩

/-- What a layer is declared as. -/
def declarationBody (project : Project) (key : NodeKey) : DeclarationBody :=
  let node := project.node key
  match project.supportedExport? key with
  | some setting => .image (project.scene.exportFileName key setting)
  | none =>
      if node.isShape then
        let size := shapeSize node.layer?
        .box size.x size.y
      else .element (if node.isText then "span" else "div")

/-- The declaration of a layer. -/
def declaration (project : Project) (key : NodeKey) : Declaration :=
  ⟨key, project.scene.tagName key, project.scene.className key, project.declarationBody key⟩

/-- Whether a node is no layer of a component to be declared with it: documents
and pages never are, instances stand for their component, and a component other
than `owner` has its own turn. -/
def isSkipped (owner index : Nat) (node : Node) : Bool :=
  node.type == .document || node.type == .canvas || node.isInstance
    || (node.isComponent && index != owner)

/-- Whether the children of a declared layer are declared too. -/
def declaresChildren (project : Project) (key : NodeKey) : Bool :=
  (project.supportedExport? key).isNone && !(project.node key).isShape

/-- Go on with the nodes on the stack, which are to be declared with the component
`owner`.  A node that is skipped leaves out everything below it. -/
@[semireducible]
def declaredFrom (project : Project) (owner : NodeKey) : List NodeKey -> List NodeKey
  | [] => []
  | key :: stack =>
      if isSkipped owner.index key.index (project.node key) then
        declaredFrom project owner stack
      else if project.declaresChildren key then
        key :: declaredFrom project owner (project.scene.children key ++ stack)
      else key :: declaredFrom project owner stack
termination_by stack => project.scene.weight stack
decreasing_by
  · exact project.scene.weight_lt_cons key stack
  · exact project.scene.weight_children_append_lt key stack
  · exact project.scene.weight_lt_cons key stack

/-- The layers declared for all components, in order. -/
def declaredKeys (project : Project) : List NodeKey :=
  project.components.flatMap fun component => project.declaredFrom component [component]

/-- The declarations of all components, in order. -/
def declarations (project : Project) : List Declaration :=
  project.declaredKeys.map project.declaration

/-- The warnings about exports of declared layers that cannot be made. -/
def declarationWarnings (project : Project) : List Warning :=
  project.declaredKeys.flatMap fun key =>
    (project.exportWarnings key).map (Warning.about (project.node key))

end Project
end SceneMarkup

import SceneMarkup.Scene.Drawing

namespace SceneMarkup

/-!
# Nodes of a scene

A scene is a tree of nodes.  Containers hold children and leaves hold none, and
the two are different constructors: a rectangle with children cannot be built.
Drawable nodes carry a `Layer` with everything that can be seen of them.
-/

/-- The visual properties that drawable nodes share. -/
structure Layer where
  boundingBox : Option Rect
  transform : Option Transform
  size : Option Vector2
  opacity : Option Float
  blendMode : Option BlendMode
  fills : List Paint
  strokes : List Paint
  strokeWeight : Option Float
  effects : List Effect
  exportSettings : List ExportSetting
  deriving Repr, BEq, Inhabited

/-- A layer on which nothing is set. -/
def Layer.blank : Layer :=
  ⟨none, none, none, none, none, [], [], none, [], []⟩

/-- The type of a node. -/
inductive NodeType where
  | document
  | canvas
  | group
  | frame
  | vector
  | rectangle
  | ellipse
  | star
  | regularPolygon
  | line
  | placement
  | component
  | text
  deriving Repr, BEq, DecidableEq, Inhabited, ReflBEq, LawfulBEq

namespace NodeType

/-- Every type, in the order in which types are numbered. -/
def all : List NodeType :=
  [ .document, .canvas, .group, .frame, .vector, .rectangle, .ellipse, .star,
    .regularPolygon, .line, .placement, .component, .text ]

def name : NodeType -> String
  | .document => "DOCUMENT"
  | .canvas => "CANVAS"
  | .group => "GROUP"
  | .frame => "FRAME"
  | .vector => "VECTOR"
  | .rectangle => "RECTANGLE"
  | .ellipse => "ELLIPSE"
  | .star => "STAR"
  | .regularPolygon => "REGULAR_POLYGON"
  | .line => "LINE"
  | .placement => "INSTANCE"
  | .component => "COMPONENT"
  | .text => "TEXT"

/-- The type with a name.  Component sets and sections are frames, and a boolean
operation is a vector. -/
def ofName? (name : String) : Option NodeType :=
  if name = "COMPONENT_SET" ∨ name = "SECTION" then some .frame
  else if name = "BOOLEAN_OPERATION" then some .vector
  else all.find? fun type => type.name == name

end NodeType

/-- The shapes that are drawn as exported images. -/
inductive Shape where
  | vector
  | ellipse
  | star
  | regularPolygon
  | line
  deriving Repr, BEq, DecidableEq, Inhabited

def Shape.type : Shape -> NodeType
  | .vector => .vector
  | .ellipse => .ellipse
  | .star => .star
  | .regularPolygon => .regularPolygon
  | .line => .line

/-- What a node with children is.  A placement stands for an instance of a
component, which may be defined in another file. -/
inductive Container where
  | document
  | canvas (background : Option Color)
  | group
  | frame (clips : Bool) (layer : Layer)
  | component (clips : Bool) (layer : Layer)
  | placement (componentId : String) (clips : Bool) (layer : Layer)
  deriving Repr, BEq, Inhabited

/-- What a node without children is. -/
inductive Leaf where
  | shape (outline : Shape) (layer : Layer)
  | rectangle (cornerRadius : Option Float) (layer : Layer)
  | text (characters : String) (style : TypeStyle) (layer : Layer)
  deriving Repr, BEq, Inhabited

/-- A node of a scene. -/
inductive Node where
  | container (id name : String) (kind : Container) (children : List Node)
  | leaf (id name : String) (kind : Leaf)
  deriving Repr, Inhabited

def Container.type : Container -> NodeType
  | .document => .document
  | .canvas _ => .canvas
  | .group => .group
  | .frame _ _ => .frame
  | .component _ _ => .component
  | .placement _ _ _ => .placement

def Leaf.type : Leaf -> NodeType
  | .shape outline _ => outline.type
  | .rectangle _ _ => .rectangle
  | .text _ _ _ => .text

/-- The layer of a container, which documents, pages and groups lack. -/
def Container.layer? : Container -> Option Layer
  | .document => none
  | .canvas _ => none
  | .group => none
  | .frame _ layer => some layer
  | .component _ layer => some layer
  | .placement _ _ layer => some layer

def Leaf.layer : Leaf -> Layer
  | .shape _ layer => layer
  | .rectangle _ layer => layer
  | .text _ _ layer => layer

namespace Node

/-- An empty group, which has nothing to show. -/
def blank : Node :=
  .container "" "" .group []

def id : Node -> String
  | .container id _ _ _ => id
  | .leaf id _ _ => id

def name : Node -> String
  | .container _ name _ _ => name
  | .leaf _ name _ => name

def type : Node -> NodeType
  | .container _ _ kind _ => kind.type
  | .leaf _ _ kind => kind.type

/-- The children of a node, in order. -/
def children : Node -> List Node
  | .container _ _ _ children => children
  | .leaf _ _ _ => []

/-- The layer of a drawable node. -/
def layer? : Node -> Option Layer
  | .container _ _ kind _ => kind.layer?
  | .leaf _ _ kind => some kind.layer

/-- The images that a node wants exported. -/
def exportSettings (node : Node) : List ExportSetting :=
  match node.layer? with
  | some layer => layer.exportSettings
  | none => []

/-- Whether a node is drawn as an exported image. -/
def isShape (node : Node) : Bool :=
  match node with
  | .leaf _ _ (.shape _ _) => true
  | _ => false

/-- Whether a node is a frame, a component or an instance. -/
def isFrameLike (node : Node) : Bool :=
  node.type == .frame || node.type == .component || node.type == .placement

def isComponent (node : Node) : Bool :=
  node.type == .component

def isInstance (node : Node) : Bool :=
  node.type == .placement

def isText (node : Node) : Bool :=
  node.type == .text

/-- The id of the component that an instance places. -/
def componentId? (node : Node) : Option String :=
  match node with
  | .container _ _ (.placement componentId _ _) _ => some componentId
  | _ => none

/-- Whether a node hides what reaches over its edges. -/
def clips (node : Node) : Bool :=
  match node with
  | .container _ _ (.frame clips _) _ => clips
  | .container _ _ (.component clips _) _ => clips
  | .container _ _ (.placement _ clips _) _ => clips
  | _ => false

def characters? (node : Node) : Option String :=
  match node with
  | .leaf _ _ (.text characters _ _) => some characters
  | _ => none

/-- The corner radius of a rectangle. -/
def cornerRadius? (node : Node) : Option Float :=
  match node with
  | .leaf _ _ (.rectangle cornerRadius _) => cornerRadius
  | _ => none

end Node

/-!
## Ids inside instances

A layer inside an instance has an id of the form `I<instance>;<layer>`: the
letter `I`, the id of the outermost instance, a semicolon, and the id of the
layer within that instance, which may be qualified again.
-/

namespace InstanceId

/-- Split an id at its outermost qualifier: the instance and the rest. -/
def split? (id : String) : Option (String × String) :=
  match id.toList with
  | 'I' :: rest =>
      if ';' ∈ rest then
        some (String.ofList (rest.takeWhile (· ≠ ';')),
          String.ofList ((rest.dropWhile (· ≠ ';')).drop 1))
      else none
  | _ => none

/-- Whether an id begins as a qualified one does. -/
def isQualified (id : String) : Bool :=
  id.toList.head? == some 'I'

/-- The id of the outermost instance. -/
def qualifier? (id : String) : Option String :=
  (split? id).map Prod.fst

/-- The id without its outermost qualifier; an id without one stays. -/
def unqualified (id : String) : String :=
  match split? id with
  | some parts => parts.2
  | none => id

end InstanceId

/-!
## Design files

A design file is a document with its name and a list of the components it uses.
A file that components are imported from comes with a table that says which of
its nodes the importing document's ids mean.
-/

/-- What a design file says about a component. -/
structure ComponentNote where
  key : String
  name : String
  description : String
  deriving Repr, BEq, Inhabited

/-- A design file. -/
structure DesignFile where
  name : String
  document : Node
  components : OrderedMap ComponentNote
  deriving Repr, Inhabited

/-- A file that components are imported from.  `aliases` leads from ids of the
importing document to ids of this one. -/
structure ImportedFile where
  aliases : OrderedMap String
  document : Node
  deriving Repr, Inhabited

/-- Imported files under the paths where their markup lies, in import order. -/
abbrev Imports := OrderedMap ImportedFile

end SceneMarkup

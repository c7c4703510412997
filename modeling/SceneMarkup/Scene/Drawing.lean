import SceneMarkup.Number.Notation
import SceneMarkup.OrderedMap
import SceneMarkup.Text.Words

namespace SceneMarkup

/-!
# What is drawn

The values that the layers of a scene are made of: boxes and placements, colors,
paints, effects, type styles, and the images that a layer wants exported.
-/

/-!
## Plane geometry of a scene

Sizes, offsets, boxes and affine placements, all in doubles.
-/

/-- A pair of coordinates: a size, an offset or the handle of a gradient. -/
structure Vector2 where
  x : Float
  y : Float
  deriving Repr, BEq, Inhabited

/-- A box along the axes, in absolute canvas coordinates. -/
structure Rect where
  x : Float
  y : Float
  width : Float
  height : Float
  deriving Repr, BEq, Inhabited

/-- One row of an affine placement: two linear coefficients and a shift. -/
structure TransformRow where
  first : Float
  second : Float
  shift : Float
  deriving Repr, BEq, Inhabited

/-- An affine placement relative to the parent layer. -/
structure Transform where
  horizontal : TransformRow
  vertical : TransformRow
  deriving Repr, BEq, Inhabited

/-!
## Colors

A color has four channels between zero and one.  Its three visible channels are
also known as bytes, each rounded to the nearest with a half going up.
-/

/-- A color with its alpha channel. -/
structure Color where
  red : Float
  green : Float
  blue : Float
  alpha : Float
  deriving Repr, BEq, Inhabited

namespace Color

/-- Opaque black. -/
def black : Color := ⟨0.0, 0.0, 0.0, 1.0⟩

/-- Bring a channel into the range from zero to one. -/
def clampChannel (value : Float) : Float :=
  if value < 0.0 then 0.0 else if 1.0 < value then 1.0 else value

def channelByte (value : Float) : Nat :=
  (Number.roundHalfUp (clampChannel value * 255.0)).toNat

/-- The three visible channels as bytes. -/
def bytes (color : Color) : Nat × Nat × Nat :=
  (channelByte color.red, channelByte color.green, channelByte color.blue)

/-- A byte as two hexadecimal digits. -/
def hexByte (value : Nat) : String :=
  String.ofList (Nat.toDigits 16 (value / 16) ++ Nat.toDigits 16 (value % 16))

/-- The visible channels in hexadecimal after a hash mark. -/
def hex (color : Color) : String :=
  let channels := color.bytes
  "#" ++ hexByte channels.1 ++ hexByte channels.2.1 ++ hexByte channels.2.2

end Color

/-!
## Blend modes

Sixteen modes have a counterpart in stylesheets.  Every other mode is kept under
the name it came with, so nothing is lost when it is written back.
-/

/-- How a layer or a paint mixes with what lies below. -/
inductive BlendMode where
  | normal
  | darken
  | multiply
  | colorBurn
  | lighten
  | screen
  | colorDodge
  | overlay
  | softLight
  | hardLight
  | difference
  | exclusion
  | hue
  | luminosity
  | saturation
  | color
  | other (name : String)
  deriving Repr, BEq, DecidableEq, Inhabited

namespace BlendMode

/-- The modes that stylesheets know, with their names in scenes and in
stylesheets. -/
def known : List (BlendMode × String × String) :=
  [ (.normal, "NORMAL", "normal"),
    (.darken, "DARKEN", "darken"),
    (.multiply, "MULTIPLY", "multiply"),
    (.colorBurn, "COLOR_BURN", "color-burn"),
    (.lighten, "LIGHTEN", "lighten"),
    (.screen, "SCREEN", "screen"),
    (.colorDodge, "COLOR_DODGE", "color-dodge"),
    (.overlay, "OVERLAY", "overlay"),
    (.softLight, "SOFT_LIGHT", "soft-light"),
    (.hardLight, "HARD_LIGHT", "hard-light"),
    (.difference, "DIFFERENCE", "difference"),
    (.exclusion, "EXCLUSION", "exclusion"),
    (.hue, "HUE", "hue"),
    (.luminosity, "LUMINOSITY", "luminosity"),
    (.saturation, "SATURATION", "saturation"),
    (.color, "COLOR", "color") ]

def ofName (name : String) : BlendMode :=
  match known.find? fun row => row.2.1 == name with
  | some row => row.1
  | none => .other name

def name (mode : BlendMode) : String :=
  match mode with
  | .other name => name
  | mode =>
      match known.find? fun row => row.1 == mode with
      | some row => row.2.1
      | none => ""

/-- The keyword of a mode in stylesheets, if there is one. -/
def keyword? (mode : BlendMode) : Option String :=
  (known.find? fun row => row.1 == mode).map fun row => row.2.2

end BlendMode

/-!
## Paints

A fill or a stroke is a stack of paints.  What a paint draws is told apart by
type; a type without a model of its own is kept under its name.
-/

/-- A color at a position along a gradient. -/
structure ColorStop where
  color : Color
  position : Float
  deriving Repr, BEq, Inhabited

/-- The stops of a gradient and the handles that orient it. -/
structure Gradient where
  handles : List Vector2
  stops : List ColorStop
  deriving Repr, BEq, Inhabited

/-- What a paint draws. -/
inductive PaintSource where
  | solid (color : Color)
  | linearGradient (gradient : Gradient)
  | radialGradient (gradient : Gradient)
  | angularGradient (gradient : Gradient)
  | diamondGradient (gradient : Gradient)
  | image (reference : String)
  | unsupported (typeName : String)
  deriving Repr, BEq, Inhabited

def PaintSource.typeName : PaintSource -> String
  | .solid _ => "SOLID"
  | .linearGradient _ => "GRADIENT_LINEAR"
  | .radialGradient _ => "GRADIENT_RADIAL"
  | .angularGradient _ => "GRADIENT_ANGULAR"
  | .diamondGradient _ => "GRADIENT_DIAMOND"
  | .image _ => "IMAGE"
  | .unsupported typeName => typeName

/-- One paint of a fill or a stroke. -/
structure Paint where
  source : PaintSource
  visible : Bool
  opacity : Float
  blendMode : Option BlendMode
  deriving Repr, BEq, Inhabited

namespace Paint

/-- A visible, opaque paint in one color. -/
def solid (color : Color) : Paint :=
  ⟨.solid color, true, 1.0, none⟩

def solidColor? (paint : Paint) : Option Color :=
  match paint.source with
  | .solid color => some color
  | _ => none

/-- Whether a paint is in one color. -/
def isSolid (paint : Paint) : Bool :=
  paint.solidColor?.isSome

end Paint

/-!
## Effects

Shadows and blurs.  Unknown effects keep their name and draw nothing.
-/

/-- The kind of an effect. -/
inductive EffectKind where
  | dropShadow
  | innerShadow
  | layerBlur
  | backgroundBlur
  | other (name : String)
  deriving Repr, BEq, DecidableEq, Inhabited

namespace EffectKind

def ofName (name : String) : EffectKind :=
  if name = "DROP_SHADOW" then .dropShadow
  else if name = "INNER_SHADOW" then .innerShadow
  else if name = "LAYER_BLUR" then .layerBlur
  else if name = "BACKGROUND_BLUR" then .backgroundBlur
  else .other name

def name : EffectKind -> String
  | .dropShadow => "DROP_SHADOW"
  | .innerShadow => "INNER_SHADOW"
  | .layerBlur => "LAYER_BLUR"
  | .backgroundBlur => "BACKGROUND_BLUR"
  | .other name => name

end EffectKind

/-- One effect of a layer. -/
structure Effect where
  kind : EffectKind
  visible : Bool
  radius : Float
  spread : Float
  color : Option Color
  offset : Option Vector2
  deriving Repr, BEq, Inhabited

def Effect.isShadow (effect : Effect) : Bool :=
  effect.kind == .dropShadow || effect.kind == .innerShadow

/-!
## Typography

Everything a text may state about its type; each part may be left open.
-/

/-- The typography of a text. -/
structure TypeStyle where
  fontFamily : Option String
  fontWeight : Option Float
  fontSize : Option Float
  letterSpacing : Option Float
  lineHeightPercent : Option Float
  alignment : Option String
  decoration : Option String
  letterCase : Option String
  paragraphIndent : Option Float
  paragraphSpacing : Option Float
  featureFlags : Option (OrderedMap Nat)
  deriving Repr, BEq, Inhabited

/-- Typography that states nothing. -/
def TypeStyle.blank : TypeStyle :=
  ⟨none, none, none, none, none, none, none, none, none, none, none⟩

/-!
## Export settings

A layer lists the images it wants exported, each with a format and a size.  The
image step can make any format but PDF, and can only scale.
-/

/-- The format of an exported image.  Unknown formats keep their name. -/
inductive ExportFormat where
  | png
  | jpg
  | svg
  | pdf
  | other (name : String)
  deriving Repr, BEq, DecidableEq, ReflBEq, LawfulBEq, Inhabited

namespace ExportFormat

def ofName (name : String) : ExportFormat :=
  if name = "PNG" then .png
  else if name = "JPG" then .jpg
  else if name = "SVG" then .svg
  else if name = "PDF" then .pdf
  else .other name

def name : ExportFormat -> String
  | .png => "PNG"
  | .jpg => "JPG"
  | .svg => "SVG"
  | .pdf => "PDF"
  | .other name => name

/-- The extension of files in the format: its name in lower case. -/
def extension (format : ExportFormat) : String :=
  Text.lowerString format.name

end ExportFormat

/-- What the value of a size constraint measures. -/
inductive ConstraintKind where
  | scale
  | width
  | height
  deriving Repr, BEq, DecidableEq, ReflBEq, LawfulBEq, Inhabited

def ConstraintKind.name : ConstraintKind -> String
  | .scale => "SCALE"
  | .width => "WIDTH"
  | .height => "HEIGHT"

def ConstraintKind.ofName? (name : String) : Option ConstraintKind :=
  if name = "SCALE" then some .scale
  else if name = "WIDTH" then some .width
  else if name = "HEIGHT" then some .height
  else none

/-- How large an exported image is. -/
structure ExportConstraint where
  kind : ConstraintKind
  value : Float
  deriving Repr, BEq, Inhabited

/-- One image that a layer wants exported. -/
structure ExportSetting where
  format : ExportFormat
  suffix : String
  constraint : ExportConstraint
  deriving Repr, BEq, Inhabited

namespace ExportSetting

/-- An export in a format, scaled, without a suffix. -/
def scaled (format : ExportFormat) (value : Float) : ExportSetting :=
  ⟨format, "", ⟨.scale, value⟩⟩

/-- The export of a shape that lists none: a PNG at its own size. -/
def defaultRaster : ExportSetting :=
  scaled .png 1.0

/-- Why the image step cannot make an export. -/
inductive Obstacle where
  | portableDocument
  | sizedBy (kind : ConstraintKind)
  deriving Repr, BEq, DecidableEq

/-- The obstacle to an export, if there is one; the format counts before the
size. -/
def obstacle? (setting : ExportSetting) : Option Obstacle :=
  if setting.format = .pdf then some .portableDocument
  else if setting.constraint.kind = .scale then none
  else some (.sizedBy setting.constraint.kind)

/-- Whether the image step can make an export. -/
def isSupported (setting : ExportSetting) : Bool :=
  setting.obstacle?.isNone

end ExportSetting

end SceneMarkup

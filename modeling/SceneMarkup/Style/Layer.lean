import SceneMarkup.Project

namespace SceneMarkup

/-!
# Styles of layers

A layer states its style by itself: where it lies, how it is filled and framed,
its effects and its type.  Each of these has its declarations and its warnings.
-/

/-!
## Style declarations

A style is a map from properties to values in the order in which a rule lists
them.  Five properties place a layer absolutely; they are kept apart from the
rest wherever placement is optional.
-/

/-- The declarations of one rule. -/
abbrev Style := OrderedMap String

/-- A property with its value. -/
abbrev StyleEntry := String × String

namespace Style

/-- The properties that place a layer absolutely. -/
def layoutProperties : List String :=
  ["position", "left", "top", "width", "height"]

/-- Whether a property places a layer absolutely. -/
def isLayout (property : String) : Bool :=
  layoutProperties.contains property

/-- The declarations that place a layer. -/
def layout (style : Style) : Style :=
  style.filter isLayout

/-- The declarations that do not place a layer. -/
def appearance (style : Style) : Style :=
  style.filter fun property => ! isLayout property

end Style

def pixelLength (value : Float) : String :=
  Number.unsignedZero value ++ "px"

/-- A length in whole pixels, a half going up. -/
def wholePixels (value : Float) : String :=
  Number.wholeString (Number.roundHalfUp value) ++ "px"

/-!
## Fills

Scenes list fills from bottom to top, stylesheets list background layers from
top to bottom.  Only the last background layer may be a bare color, so a solid
fill anywhere else is written as a gradient between equal colors.  A fill of a
type without a counterpart is reported and leaves no layer.
-/

/-- A color as a style value: in hexadecimal when it is opaque, to two places of
alpha, and with its alpha otherwise. -/
def Color.css (color : Color) (opacity : Float) : String :=
  let alpha := Number.roundTo (color.alpha * opacity) 2
  if alpha == 1.0 then color.hex
  else
    let channels := color.bytes
    "rgba(" ++ Number.digitString channels.1 ++ ", " ++ Number.digitString channels.2.1
      ++ ", " ++ Number.digitString channels.2.2 ++ ", " ++ Number.unsignedZero alpha ++ ")"

/-- The angle in radians, to three places, of the axis between the first two
handles of a gradient; zero without two handles. -/
def Gradient.angle : List Vector2 -> Float
  | first :: second :: _ =>
      let rise := second.y - first.y
      let run := first.x - second.x
      Number.roundTo (Float.atan2 (-run) (-rise)) 3
  | _ => 0.0

/-- The stops of a gradient as a style value. -/
def Gradient.stopList (gradient : Gradient) : String :=
  ", ".intercalate (gradient.stops.map fun stop =>
    stop.color.css 1.0 ++ " "
      ++ Number.unsignedZero (Number.roundTo (stop.position * 100.0) 2) ++ "%")

/-- A linear gradient as a style value. -/
def Gradient.linear (gradient : Gradient) : String :=
  "linear-gradient(" ++ Number.unsignedZero (Gradient.angle gradient.handles) ++ "rad, "
    ++ gradient.stopList ++ ")"

/-- A radial gradient as a style value. -/
def Gradient.radial (gradient : Gradient) : String :=
  "radial-gradient(" ++ gradient.stopList ++ ")"

/-- One background layer.  `blended` holds when the paint asks for a mode other
than the normal one, also where stylesheets have no keyword for it. -/
structure FillLayer where
  value : String
  mode : String
  blended : Bool
  deriving Repr, BEq, DecidableEq

namespace Paint

/-- The style value of a paint, where it stands as the last layer or before it;
types without a counterpart have none. -/
def layerValue? (paint : Paint) (isLast : Bool) : Option String :=
  match paint.source with
  | .solid color =>
      let value := color.css paint.opacity
      some (if isLast then value
        else "linear-gradient(0deg, " ++ value ++ ", " ++ value ++ ")")
  | .linearGradient gradient => some gradient.linear
  | .radialGradient gradient => some gradient.radial
  | .image reference => some ("url(\"./" ++ reference ++ ".png\")")
  | .angularGradient _ => none
  | .diamondGradient _ => none
  | .unsupported _ => none

/-- Whether a paint has a counterpart among background layers. -/
def isFillable (paint : Paint) : Bool :=
  (paint.layerValue? true).isSome

/-- The keyword for the blend mode of a paint, normal where there is none. -/
def modeKeyword (paint : Paint) : String :=
  (paint.blendMode.bind BlendMode.keyword?).getD "normal"

/-- Whether a paint asks for a blend mode other than the normal one. -/
def asksForBlending (paint : Paint) : Bool :=
  match paint.blendMode with
  | some mode => mode != .normal
  | none => false

end Paint

namespace Fills

/-- The visible fills, topmost first. -/
def visible (fills : List Paint) : List Paint :=
  fills.reverse.filter (·.visible)

/-- The background layers of visible fills that are listed topmost first. -/
def layersFrom : List Paint -> List FillLayer
  | [] => []
  | paint :: rest =>
      match paint.layerValue? rest.isEmpty with
      | some value => ⟨value, paint.modeKeyword, paint.asksForBlending⟩ :: layersFrom rest
      | none => layersFrom rest

/-- The background layers of fills, topmost first. -/
def layers (fills : List Paint) : List FillLayer :=
  layersFrom (visible fills)

/-- The warnings about fills without a counterpart. -/
def warnings (fills : List Paint) : List WarningKind :=
  ((visible fills).filter (! ·.isFillable)).map fun paint =>
    .unsupportedFill paint.source.typeName

/-- The declarations of a background.  Blend modes are listed when some layer
asks for one, and then for every layer. -/
def declarations (fills : List Paint) : List StyleEntry :=
  let found := layers fills
  if found.isEmpty then []
  else
    ("background", ", ".intercalate (found.map (·.value)))
      :: if found.any (·.blended) then
          [("background-blend-mode", ", ".intercalate (found.map (·.mode)))]
        else []

end Fills

/-!
## Strokes

A box has one border in one color.  Anything more elaborate is reported, and the
first visible stroke in one color is drawn.
-/

namespace Strokes

/-- The warnings about strokes that are more than one border. -/
def warnings (strokes : List Paint) : List WarningKind :=
  let visible := strokes.filter (·.visible)
  if 1 < visible.length || visible.any (! ·.isSolid) then [.unsupportedStroke] else []

/-- The border that strokes draw, one pixel wide where no weight is given. -/
def declarations (strokes : List Paint) (weight : Option Float) : List StyleEntry :=
  match (strokes.filter (·.visible)).find? (·.isSolid) with
  | none => []
  | some paint =>
      match paint.solidColor? with
      | none => []
      | some color =>
          [ ("border",
              pixelLength (weight.getD 1.0) ++ " solid " ++ color.css paint.opacity) ]

end Strokes

/-!
## Effects as declarations

All visible shadows are drawn, and of each kind of blur the first visible one.
A blurred background is reported, because few viewers draw it.
-/

/-- A shadow as a style value. -/
def Effect.boxShadow (effect : Effect) : String :=
  let offset := effect.offset.getD ⟨0.0, 0.0⟩
  " ".intercalate
    ((if effect.kind = .innerShadow then ["inset"] else [])
      ++ [pixelLength offset.x, pixelLength offset.y, pixelLength effect.radius]
      ++ (if effect.spread != 0.0 then [pixelLength effect.spread] else [])
      ++ [(effect.color.getD Color.black).css 1.0])

/-- A blur as a style value. -/
def Effect.blur (effect : Effect) : String :=
  "blur(" ++ pixelLength effect.radius ++ ")"

namespace Effects

def visible (effects : List Effect) : List Effect :=
  effects.filter (·.visible)

/-- The first visible effect of a kind. -/
def first? (effects : List Effect) (kind : EffectKind) : Option Effect :=
  (visible effects).find? fun effect => effect.kind == kind

/-- The warnings about effects. -/
def warnings (effects : List Effect) : List WarningKind :=
  if (first? effects .backgroundBlur).isSome then [.backgroundBlur] else []

def declarations (effects : List Effect) : List StyleEntry :=
  let shadows := (visible effects).filter (·.isShadow)
  (if shadows.isEmpty then []
    else [("box-shadow", ", ".intercalate (shadows.map Effect.boxShadow))])
  ++ (match first? effects .layerBlur with
      | some effect => [("filter", effect.blur)]
      | none => [])
  ++ (match first? effects .backgroundBlur with
      | some effect => [("backdrop-filter", effect.blur)]
      | none => [])

end Effects

/-!
## Typography as declarations

Each part of a type style has a declaration of its own, which is left out where
the part is open or says nothing.  The color of a text comes from its first
visible solid fill; no other fill fits a color, and each is reported.
-/

namespace Typography

/-- A declaration for a part that may be open. -/
def part (property : String) (value : Option String) : List StyleEntry :=
  match value with
  | some value => [(property, value)]
  | none => []

/-- A number that says something: one that is not zero. -/
def nonzero (value : Option Float) : Option Float :=
  value.filter fun value => value != 0.0

/-- The font size, which must be positive to count. -/
def size? (style : TypeStyle) : Option Float :=
  style.fontSize.filter fun size => size > 0.0

/-- Letter spacing in units of the font size; without a size it means nothing. -/
def spacing? (style : TypeStyle) : Option String :=
  match nonzero style.letterSpacing, size? style with
  | some spacing, some size => some (Number.thousandths (spacing / size) ++ "em")
  | _, _ => none

def alignmentKeyword (alignment : String) : String :=
  if alignment = "JUSTIFIED" then "justify" else Text.lowerString alignment

/-- The keyword of a decoration; other decorations have none. -/
def decorationKeyword? (decoration : String) : Option String :=
  if decoration = "STRIKETHROUGH" then some "line-through"
  else if decoration = "UNDERLINE" then some "underline"
  else none

/-- The keyword of a letter case; other cases have none. -/
def caseKeyword? (letterCase : String) : Option String :=
  if letterCase = "UPPER" then some "uppercase"
  else if letterCase = "LOWER" then some "lowercase"
  else if letterCase = "TITLE" then some "capitalize"
  else none

/-- The setting of one feature of a font. -/
def featureSetting (flag : String × Nat) : String :=
  "\"" ++ Text.lowerString flag.1 ++ "\" " ++ (if flag.2 = 0 then "off" else "on")

/-- The settings of the features of a font, if there are any. -/
def features? (style : TypeStyle) : Option String :=
  (style.featureFlags.filter (! ·.isEmpty)).map fun flags =>
    ", ".intercalate (flags.entries.map featureSetting)

def color? (fills : List Paint) : Option String :=
  (fills.filter (·.visible)).findSome? fun paint =>
    paint.solidColor?.map fun color => color.css paint.opacity

/-- The declarations of a text apart from its placement and its effects. -/
def declarations (style : TypeStyle) (layer : Layer) : List StyleEntry :=
  part "mix-blend-mode" (layer.blendMode.bind BlendMode.keyword?)
    ++ part "font-family" (style.fontFamily.filter fun family => family != "")
    ++ part "font-weight" ((nonzero style.fontWeight).map Number.unsignedZero)
    ++ part "font-size" ((size? style).map pixelLength)
    ++ part "letter-spacing" (spacing? style)
    ++ part "line-height" ((nonzero style.lineHeightPercent).map fun height =>
        Number.wholeString (Number.roundHalfUp height) ++ "%")
    ++ part "text-align" (style.alignment.map alignmentKeyword)
    ++ part "text-decoration" (style.decoration.bind decorationKeyword?)
    ++ part "text-indent" ((nonzero style.paragraphIndent).map fun indent =>
        pixelLength (Number.roundTo indent 2))
    ++ part "text-transform" (style.letterCase.bind caseKeyword?)
    ++ part "font-feature-settings" (features? style)
    ++ part "color" (color? layer.fills)

/-- The warnings about a text: a letter case without a keyword, and then every
visible fill that is no color. -/
def warnings (style : TypeStyle) (layer : Layer) : List WarningKind :=
  (match style.letterCase with
    | none => []
    | some letterCase =>
        if letterCase = "ORIGINAL" || (caseKeyword? letterCase).isSome then []
        else [.unrecognizedTextCase letterCase])
  ++ ((layer.fills.filter fun paint => paint.visible && !paint.isSolid).map fun _ =>
      .nonSolidTextFill)

end Typography

/-!
## The style of a layer

The style that a layer states on its own, before anything it overrides is taken
into account.  A shape shows its exported image and has a place; every other
layer has a place, its type or its fills and strokes, its effects, and a few
properties of the whole box.  The declarations and the warnings are two separate
functions of the same layer.
-/

namespace Project

/-- Where a layer lies: the shift of its transform with its size, falling
back to its bounding box for what is missing. -/
def placement? (layer : Layer) : Option Rect :=
  match layer.transform, layer.size, layer.boundingBox with
  | some transform, some size, _ =>
      some ⟨transform.horizontal.shift, transform.vertical.shift, size.x, size.y⟩
  | some transform, none, some box =>
      some ⟨transform.horizontal.shift, transform.vertical.shift,
        box.width, box.height⟩
  | none, _, some box => some box
  | _, _, none => none

/-- The declarations that place a layer, unless absolute positions are off. -/
def placementDeclarations (options : Options) (layer : Layer) : List StyleEntry :=
  if options.absoluteLayout then
    match placement? layer with
    | some place =>
        [ ("position", "absolute"), ("left", wholePixels place.x), ("top", wholePixels place.y),
          ("width", wholePixels place.width), ("height", wholePixels place.height) ]
    | none => []
  else []

/-- The export whose file a shape shows: the first that can be made, or the
default one. -/
def shownExport (project : Project) (key : NodeKey) : ExportSetting :=
  (project.supportedExport? key).getD .defaultRaster

/-- The declarations of what fills a layer: the type of a text, or the fills and
strokes of a box. -/
def contentDeclarations (node : Node) (layer : Layer) : List StyleEntry :=
  match node with
  | .leaf _ _ (.text _ style _) => Typography.declarations style layer
  | _ =>
      Fills.declarations layer.fills
        ++ Typography.part "mix-blend-mode" (layer.blendMode.bind BlendMode.keyword?)
        ++ Strokes.declarations layer.strokes layer.strokeWeight

/-- The declarations of the whole box. -/
def boxDeclarations (node : Node) (layer : Layer) : List StyleEntry :=
  Typography.part "opacity" (layer.opacity.map Number.unsignedZero)
    ++ Typography.part "border-radius" ((Typography.nonzero node.cornerRadius?).map pixelLength)
    ++ (if node.isFrameLike && node.clips then [("overflow", "hidden")] else [])

/-- The declarations that a node states on its own, in order. -/
def nodeDeclarations (project : Project) (key : NodeKey) : List StyleEntry :=
  let node := project.node key
  match node.layer? with
  | none => []
  | some layer =>
      if node.isShape then
        ("background",
          "url(./" ++ project.scene.exportFileName key (project.shownExport key) ++ ")")
          :: placementDeclarations project.options layer
      else
        placementDeclarations project.options layer ++ contentDeclarations node layer
          ++ Effects.declarations layer.effects ++ boxDeclarations node layer

/-- The style that a node states on its own. -/
def nodeStyle (project : Project) (key : NodeKey) : Style :=
  OrderedMap.ofList (project.nodeDeclarations key)

/-- What stating the style of a node has to leave out. -/
def nodeWarningKinds (project : Project) (key : NodeKey) : List WarningKind :=
  let node := project.node key
  match node.layer? with
  | none => []
  | some layer =>
      if node.isShape then
        project.exportWarnings key
          ++ (if node.exportSettings.isEmpty then [.vectorWithoutExport] else [])
      else
        (match node with
          | .leaf _ _ (.text _ style _) => Typography.warnings style layer
          | _ => Fills.warnings layer.fills ++ Strokes.warnings layer.strokes)
        ++ Effects.warnings layer.effects

/-- The warnings about the style of a node. -/
def nodeWarnings (project : Project) (key : NodeKey) : List Warning :=
  (project.nodeWarningKinds key).map (Warning.about (project.node key))

end Project

end SceneMarkup

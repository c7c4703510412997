import SceneMarkup.Data.Field
import SceneMarkup.Scene.Drawing

namespace SceneMarkup

/-!
# Data form of what is drawn

Reading and writing of geometry, colors, paints, effects, export settings and
typography.  Writing lists the fields in a fixed order, and reading a written
value gives the value back.
-/

/-- Read a pair of coordinates. -/
def Vector2.decode? (json : Json) : Option Vector2 := do
  let entries ← json.fields? ["x", "y"]
  let x ← Json.required? entries "x" Json.asFloat?
  let y ← Json.required? entries "y" Json.asFloat?
  return ⟨x, y⟩

/-- Write a pair of coordinates. -/
def Vector2.encode (vector : Vector2) : Json :=
  .object [("x", .ofFloat vector.x), ("y", .ofFloat vector.y)]

/-- Read a box. -/
def Rect.decode? (json : Json) : Option Rect := do
  let entries ← json.fields? ["x", "y", "width", "height"]
  let x ← Json.required? entries "x" Json.asFloat?
  let y ← Json.required? entries "y" Json.asFloat?
  let width ← Json.required? entries "width" Json.asFloat?
  let height ← Json.required? entries "height" Json.asFloat?
  return ⟨x, y, width, height⟩

/-- Write a box. -/
def Rect.encode (rect : Rect) : Json :=
  .object
    [ ("x", .ofFloat rect.x), ("y", .ofFloat rect.y),
      ("width", .ofFloat rect.width), ("height", .ofFloat rect.height) ]

/-- Read a row of a placement: exactly three numbers. -/
def TransformRow.decode? : Json -> Option TransformRow
  | .array [first, second, shift] => do
      return ⟨← first.asFloat?, ← second.asFloat?, ← shift.asFloat?⟩
  | _ => none

/-- Write a row of a placement. -/
def TransformRow.encode (row : TransformRow) : Json :=
  .array [.ofFloat row.first, .ofFloat row.second, .ofFloat row.shift]

/-- Read a placement: exactly two rows. -/
def Transform.decode? : Json -> Option Transform
  | .array [horizontal, vertical] => do
      return ⟨← TransformRow.decode? horizontal, ← TransformRow.decode? vertical⟩
  | _ => none

/-- Write a placement. -/
def Transform.encode (transform : Transform) : Json :=
  .array [transform.horizontal.encode, transform.vertical.encode]

/-- Read a color; it is opaque unless it says otherwise. -/
def Color.decode? (json : Json) : Option Color := do
  let entries ← json.fields? ["r", "g", "b", "a"]
  let red ← Json.required? entries "r" Json.asFloat?
  let green ← Json.required? entries "g" Json.asFloat?
  let blue ← Json.required? entries "b" Json.asFloat?
  let alpha ← Json.defaulted? entries "a" 1.0 Json.asFloat?
  return ⟨red, green, blue, alpha⟩

def Color.encode (color : Color) : Json :=
  .object
    [ ("r", .ofFloat color.red), ("g", .ofFloat color.green),
      ("b", .ofFloat color.blue), ("a", .ofFloat color.alpha) ]

def BlendMode.decode? (json : Json) : Option BlendMode :=
  json.asString?.map BlendMode.ofName

def BlendMode.encode (mode : BlendMode) : Json :=
  .string mode.name

def ColorStop.decode? (json : Json) : Option ColorStop := do
  let entries ← json.fields? ["color", "position"]
  let color ← Json.required? entries "color" Color.decode?
  let position ← Json.required? entries "position" Json.asFloat?
  return ⟨color, position⟩

def ColorStop.encode (stop : ColorStop) : Json :=
  .object [("color", stop.color.encode), ("position", .ofFloat stop.position)]

def Gradient.decode? (json : Json) : Option Gradient := do
  let entries ← json.fields? ["gradientHandlePositions", "gradientStops"]
  let handles ←
    Json.defaulted? entries "gradientHandlePositions" [] (Json.asList? Vector2.decode?)
  let stops ← Json.defaulted? entries "gradientStops" [] (Json.asList? ColorStop.decode?)
  return ⟨handles, stops⟩

def Gradient.encode (gradient : Gradient) : Json :=
  .object
    [ ("gradientHandlePositions", .ofList Vector2.encode gradient.handles),
      ("gradientStops", .ofList ColorStop.encode gradient.stops) ]

/-- What a paint of a type draws, given everything a paint may state.  A solid
paint without a color is black, and an image without a reference is no image. -/
def PaintSource.ofParts (typeName : String) (color : Option Color) (gradient : Gradient)
    (reference : Option String) : PaintSource :=
  if typeName = "SOLID" then .solid (color.getD Color.black)
  else if typeName = "GRADIENT_LINEAR" then .linearGradient gradient
  else if typeName = "GRADIENT_RADIAL" then .radialGradient gradient
  else if typeName = "GRADIENT_ANGULAR" then .angularGradient gradient
  else if typeName = "GRADIENT_DIAMOND" then .diamondGradient gradient
  else if typeName = "IMAGE" then
    match reference with
    | some reference => .image reference
    | none => .unsupported typeName
  else .unsupported typeName

/-- Read a paint.  Fields that its type has no use for must be readable all the
same. -/
def Paint.decode? (json : Json) : Option Paint := do
  let entries ← json.fields?
    [ "type", "visible", "opacity", "blendMode", "color", "gradientHandlePositions",
      "gradientStops", "imageRef" ]
  let typeName ← Json.required? entries "type" Json.asString?
  let visible ← Json.defaulted? entries "visible" true Json.asBool?
  let opacity ← Json.defaulted? entries "opacity" 1.0 Json.asFloat?
  let blendMode ← Json.open? entries "blendMode" BlendMode.decode?
  let color ← Json.open? entries "color" Color.decode?
  let handles ←
    Json.defaulted? entries "gradientHandlePositions" [] (Json.asList? Vector2.decode?)
  let stops ← Json.defaulted? entries "gradientStops" [] (Json.asList? ColorStop.decode?)
  let reference ← Json.open? entries "imageRef" Json.asString?
  return ⟨PaintSource.ofParts typeName color ⟨handles, stops⟩ reference,
    visible, opacity, blendMode⟩

/-- The entries of a gradient inside a paint; empty lists are left out. -/
def Gradient.paintEntries (gradient : Gradient) : List (String × Json) :=
  (if gradient.handles.isEmpty then []
    else [("gradientHandlePositions", .ofList Vector2.encode gradient.handles)])
  ++ (if gradient.stops.isEmpty then []
    else [("gradientStops", .ofList ColorStop.encode gradient.stops)])

/-- The entries that say what a paint draws. -/
def PaintSource.entries : PaintSource -> List (String × Json)
  | .solid color => [("color", color.encode)]
  | .linearGradient gradient => gradient.paintEntries
  | .radialGradient gradient => gradient.paintEntries
  | .angularGradient gradient => gradient.paintEntries
  | .diamondGradient gradient => gradient.paintEntries
  | .image reference => [("imageRef", .string reference)]
  | .unsupported _ => []

/-- Write a paint; what it leaves open is left out. -/
def Paint.encode (paint : Paint) : Json :=
  .object
    ([ ("type", .string paint.source.typeName), ("visible", .bool paint.visible),
       ("opacity", .ofFloat paint.opacity) ]
      ++ (match paint.blendMode with
          | some mode => [("blendMode", mode.encode)]
          | none => [])
      ++ paint.source.entries)

def Effect.decode? (json : Json) : Option Effect := do
  let entries ← json.fields? ["type", "visible", "radius", "spread", "color", "offset"]
  let kind ← Json.required? entries "type" Json.asString?
  let visible ← Json.defaulted? entries "visible" true Json.asBool?
  let radius ← Json.defaulted? entries "radius" 0.0 Json.asFloat?
  let spread ← Json.defaulted? entries "spread" 0.0 Json.asFloat?
  let color ← Json.open? entries "color" Color.decode?
  let offset ← Json.open? entries "offset" Vector2.decode?
  return ⟨EffectKind.ofName kind, visible, radius, spread, color, offset⟩

def Effect.encode (effect : Effect) : Json :=
  .object
    [ ("type", .string effect.kind.name), ("visible", .bool effect.visible),
      ("radius", .ofFloat effect.radius), ("spread", .ofFloat effect.spread),
      ("color", .ofOption Color.encode effect.color),
      ("offset", .ofOption Vector2.encode effect.offset) ]

/-- Read a size constraint. -/
def ExportConstraint.decode? (json : Json) : Option ExportConstraint := do
  let entries ← json.fields? ["type", "value"]
  let name ← Json.required? entries "type" Json.asChoice?
  let kind ← ConstraintKind.ofName? name
  let value ← Json.required? entries "value" Json.asFloat?
  return ⟨kind, value⟩

/-- Write a size constraint. -/
def ExportConstraint.encode (constraint : ExportConstraint) : Json :=
  .object
    [("type", .string constraint.kind.name), ("value", .ofFloat constraint.value)]

def ExportSetting.decode? (json : Json) : Option ExportSetting := do
  let entries ← json.fields? ["format", "suffix", "constraint"]
  let format ← Json.required? entries "format" Json.asString?
  let suffix ← Json.defaulted? entries "suffix" "" Json.asString?
  let constraint ← Json.required? entries "constraint" ExportConstraint.decode?
  return ⟨ExportFormat.ofName format, suffix, constraint⟩

def ExportSetting.encode (setting : ExportSetting) : Json :=
  .object
    [ ("format", .string setting.format.name), ("suffix", .string setting.suffix),
      ("constraint", setting.constraint.encode) ]

/-- Read typography; every part may be left open. -/
def TypeStyle.decode? (json : Json) : Option TypeStyle := do
  let entries ← json.fields?
    [ "fontFamily", "fontWeight", "fontSize", "letterSpacing",
      "lineHeightPercentFontSize", "textAlignHorizontal", "textDecoration", "textCase",
      "paragraphIndent", "paragraphSpacing", "opentypeFlags" ]
  let fontFamily ← Json.open? entries "fontFamily" Json.asString?
  let fontWeight ← Json.open? entries "fontWeight" Json.asFloat?
  let fontSize ← Json.open? entries "fontSize" Json.asFloat?
  let letterSpacing ← Json.open? entries "letterSpacing" Json.asFloat?
  let lineHeightPercent ← Json.open? entries "lineHeightPercentFontSize" Json.asFloat?
  let alignment ← Json.open? entries "textAlignHorizontal" Json.asString?
  let decoration ← Json.open? entries "textDecoration" Json.asString?
  let letterCase ← Json.open? entries "textCase" Json.asString?
  let paragraphIndent ← Json.open? entries "paragraphIndent" Json.asFloat?
  let paragraphSpacing ← Json.open? entries "paragraphSpacing" Json.asFloat?
  let featureFlags ← Json.open? entries "opentypeFlags" (Json.asMap? Json.asCount?)
  return ⟨fontFamily, fontWeight, fontSize, letterSpacing, lineHeightPercent, alignment,
    decoration, letterCase, paragraphIndent, paragraphSpacing, featureFlags⟩

/-- Write typography. -/
def TypeStyle.encode (style : TypeStyle) : Json :=
  .object
    [ ("fontFamily", .ofOption .string style.fontFamily),
      ("fontWeight", .ofOption .ofFloat style.fontWeight),
      ("fontSize", .ofOption .ofFloat style.fontSize),
      ("letterSpacing", .ofOption .ofFloat style.letterSpacing),
      ("lineHeightPercentFontSize", .ofOption .ofFloat style.lineHeightPercent),
      ("textAlignHorizontal", .ofOption .string style.alignment),
      ("textDecoration", .ofOption .string style.decoration),
      ("textCase", .ofOption .string style.letterCase),
      ("paragraphIndent", .ofOption .ofFloat style.paragraphIndent),
      ("paragraphSpacing", .ofOption .ofFloat style.paragraphSpacing),
      ("opentypeFlags", .ofOption (.ofMap .ofNat) style.featureFlags) ]

end SceneMarkup

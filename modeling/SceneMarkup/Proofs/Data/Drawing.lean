import Mathlib.Tactic.SplitIfs
import SceneMarkup.Data.Drawing
import SceneMarkup.Proofs.Data.Reading

namespace SceneMarkup

/-!
# Reading back what is drawn

Boxes, colors and the like settle whatever they hold, since every number, text and
truth value does.  What has kinds settles once it has been read: a name that is kept
because no kind has it is still the name of no kind when it is read again.  A paint
is taken apart by its type for writing and put together by its type for reading, and
what the type has no use for is gone after the first time.
-/

open Json

/-! ## Names of kinds -/

/-- A mode is written under the name that it was read from. -/
theorem BlendMode.name_ofName (name : String) : (ofName name).name = name := by
  have own : forall row, row ∈ known -> row.1.name = row.2.1 := by decide +kernel
  unfold ofName
  split
  · rename_i row found
    have matched := List.find?_some found
    rw [own row (List.mem_of_find?_eq_some found)]
    exact beq_iff_eq.mp matched
  · rfl

theorem EffectKind.name_ofName (name : String) : (ofName name).name = name := by
  unfold ofName
  split_ifs with dropShadow innerShadow layerBlur backgroundBlur
  · exact dropShadow.symm
  · exact innerShadow.symm
  · exact layerBlur.symm
  · exact backgroundBlur.symm
  · rfl

theorem ExportFormat.name_ofName (name : String) : (ofName name).name = name := by
  unfold ofName
  split_ifs with png jpg svg pdf
  · exact png.symm
  · exact jpg.symm
  · exact svg.symm
  · exact pdf.symm
  · rfl

theorem ConstraintKind.ofName?_name (kind : ConstraintKind) : ofName? kind.name = some kind := by
  cases kind <;> rfl

/-! ## What a paint draws -/

namespace PaintSource

/-- The color of a paint in one color. -/
def color? : PaintSource -> Option Color
  | .solid color => some color
  | _ => none

/-- The gradient of a paint, an empty one where it draws none. -/
def gradient : PaintSource -> Gradient
  | .linearGradient gradient => gradient
  | .radialGradient gradient => gradient
  | .angularGradient gradient => gradient
  | .diamondGradient gradient => gradient
  | _ => ⟨[], []⟩

def reference? : PaintSource -> Option String
  | .image reference => some reference
  | _ => none

/-- What has been made from parts is made from its own parts again: what the type has
no use for was dropped, and a type without a model stays one. -/
theorem ofParts_own {typeName : String} {color : Option Color} {parts : Gradient}
    {reference : Option String} {source : PaintSource}
    (made : ofParts typeName color parts reference = source) :
    ofParts source.typeName source.color? source.gradient source.reference? = source := by
  unfold ofParts at made
  split_ifs at made with solid linear radial angular diamond image
  · rw [← made]; rfl
  · rw [← made]; rfl
  · rw [← made]; rfl
  · rw [← made]; rfl
  · rw [← made]; rfl
  · -- An image without a reference has become a type without a model of that name.
    cases reference with
    | some reference => rw [← made]; rfl
    | none => rw [← made, image]; rfl
  · rw [← made]
    change ofParts typeName none ⟨[], []⟩ none = .unsupported typeName
    rw [ofParts, if_neg solid, if_neg linear, if_neg radial, if_neg angular, if_neg diamond,
      if_neg image]

end PaintSource

theorem Gradient.names_paintEntries (gradient : Gradient) :
    (gradient.paintEntries.map Prod.fst).Sublist ["gradientHandlePositions", "gradientStops"] := by
  rw [paintEntries]
  split <;> split <;> simp

theorem Gradient.lookup_handles (gradient : Gradient) :
    gradient.paintEntries.lookup "gradientHandlePositions" =
      skippedList Vector2.encode gradient.handles := by
  rw [paintEntries, skippedList]
  split <;> split <;> rfl

theorem Gradient.lookup_stops (gradient : Gradient) :
    gradient.paintEntries.lookup "gradientStops" =
      skippedList ColorStop.encode gradient.stops := by
  rw [paintEntries, skippedList]
  split <;> split <;> rfl

namespace PaintSource

theorem names_entries (source : PaintSource) :
    (source.entries.map Prod.fst).Sublist
      ["color", "gradientHandlePositions", "gradientStops", "imageRef"] := by
  have stops (gradient : Gradient) : (gradient.paintEntries.map Prod.fst).Sublist
      ["color", "gradientHandlePositions", "gradientStops", "imageRef"] :=
    gradient.names_paintEntries.trans (by decide)
  cases source with
  | linearGradient gradient | radialGradient gradient | angularGradient gradient
  | diamondGradient gradient => exact stops gradient
  | solid color => simp [entries]
  | image reference => simp [entries]
  | unsupported typeName => simp [entries]

theorem lookup_color (source : PaintSource) :
    source.entries.lookup "color" = source.color?.map Color.encode := by
  have absent (gradient : Gradient) : gradient.paintEntries.lookup "color" = none :=
    lookup_eq_none_of_absent fun member =>
      absurd (gradient.names_paintEntries.subset member) (by decide)
  cases source with
  | linearGradient gradient | radialGradient gradient | angularGradient gradient
  | diamondGradient gradient => exact absent gradient
  | solid color | image reference | unsupported typeName => rfl

theorem lookup_reference (source : PaintSource) :
    source.entries.lookup "imageRef" = source.reference?.map Json.string := by
  have absent (gradient : Gradient) : gradient.paintEntries.lookup "imageRef" = none :=
    lookup_eq_none_of_absent fun member =>
      absurd (gradient.names_paintEntries.subset member) (by decide)
  cases source with
  | linearGradient gradient | radialGradient gradient | angularGradient gradient
  | diamondGradient gradient => exact absent gradient
  | solid color | image reference | unsupported typeName => rfl

theorem lookup_handles (source : PaintSource) :
    source.entries.lookup "gradientHandlePositions" =
      skippedList Vector2.encode source.gradient.handles := by
  cases source with
  | linearGradient gradient | radialGradient gradient | angularGradient gradient
  | diamondGradient gradient => exact gradient.lookup_handles
  | solid color | image reference | unsupported typeName => rfl

theorem lookup_stops (source : PaintSource) :
    source.entries.lookup "gradientStops" =
      skippedList ColorStop.encode source.gradient.stops := by
  cases source with
  | linearGradient gradient | radialGradient gradient | angularGradient gradient
  | diamondGradient gradient => exact gradient.lookup_stops
  | solid color | image reference | unsupported typeName => rfl

end PaintSource

namespace Paint

/-- The entries of a paint in front of those that say what it draws. -/
def headEntries (paint : Paint) : List (String × Json) :=
  [ ("type", .string paint.source.typeName), ("visible", .bool paint.visible),
    ("opacity", .ofFloat paint.opacity) ]
  ++ (match paint.blendMode with
      | some mode => [("blendMode", mode.encode)]
      | none => [])

theorem names_headEntries (paint : Paint) :
    (paint.headEntries.map Prod.fst).Sublist ["type", "visible", "opacity", "blendMode"] := by
  rw [headEntries]
  split <;> simp

theorem encode_eq (paint : Paint) :
    paint.encode = .object (paint.headEntries ++ paint.source.entries) := rfl

theorem distinct_entries (paint : Paint) :
    ((paint.headEntries ++ paint.source.entries).map Prod.fst).Nodup := by
  rw [List.map_append]
  exact (paint.names_headEntries.append paint.source.names_entries).nodup (by decide)

theorem lookup_blendMode (paint : Paint) :
    (paint.headEntries ++ paint.source.entries).lookup "blendMode" =
      paint.blendMode.map BlendMode.encode := by
  have absent : "blendMode" ∉ paint.source.entries.map Prod.fst := fun member =>
    absurd (paint.source.names_entries.subset member) (by decide)
  rw [List.lookup_append, lookup_eq_none_of_absent absent, Option.or_none, headEntries]
  cases paint.blendMode <;> rfl

/-- Behind the entries in front only those of the source are found. -/
theorem lookup_source (paint : Paint) {name : String}
    (behind : name ∉ ["type", "visible", "opacity", "blendMode"]) :
    (paint.headEntries ++ paint.source.entries).lookup name =
      paint.source.entries.lookup name :=
  lookup_append_of_absent (fun member => behind (paint.names_headEntries.subset member)) _

end Paint

/-! ## Values that settle -/

section Kinds

variable {form : Json -> Json} (isForm : IsForm form)

include isForm

/-! ## Geometry and colors -/

theorem Vector2.settles (vector : Vector2) : Settles form decode? encode vector := by
  have distinct : ["x", "y"].Nodup := by decide
  refine isForm.object_settles (fun _ => rfl) rfl distinct fun shown lookup => ?_
  simp only [(isForm.float_settles vector.x).required?_eq (lookup "x"),
    (isForm.float_settles vector.y).required?_eq (lookup "y")]
  rfl

theorem Rect.settles (rect : Rect) : Settles form decode? encode rect := by
  have distinct : ["x", "y", "width", "height"].Nodup := by decide
  refine isForm.object_settles (fun _ => rfl) rfl distinct fun shown lookup => ?_
  simp only [(isForm.float_settles rect.x).required?_eq (lookup "x"),
    (isForm.float_settles rect.y).required?_eq (lookup "y"),
    (isForm.float_settles rect.width).required?_eq (lookup "width"),
    (isForm.float_settles rect.height).required?_eq (lookup "height")]
  rfl

theorem TransformRow.settles (row : TransformRow) : Settles form decode? encode row where
  read := by
    rw [encode, isForm.array]
    simp only [List.map_cons, List.map_nil, decode?, (isForm.float_settles _).read]
    rfl
  notNull := by rw [encode, isForm.array]; exact Json.noConfusion

theorem Transform.settles (transform : Transform) : Settles form decode? encode transform where
  read := by
    rw [encode, isForm.array]
    simp only [List.map_cons, List.map_nil, decode?, (TransformRow.settles isForm _).read]
    rfl
  notNull := by rw [encode, isForm.array]; exact Json.noConfusion

theorem Color.settles (color : Color) : Settles form decode? encode color := by
  have distinct : ["r", "g", "b", "a"].Nodup := by decide
  refine isForm.object_settles (fun _ => rfl) rfl distinct fun shown lookup => ?_
  simp only [(isForm.float_settles color.red).required?_eq (lookup "r"),
    (isForm.float_settles color.green).required?_eq (lookup "g"),
    (isForm.float_settles color.blue).required?_eq (lookup "b"),
    (isForm.float_settles color.alpha).defaulted?_eq 1.0 (lookup "a")]
  rfl

theorem ColorStop.settles (stop : ColorStop) : Settles form decode? encode stop := by
  have distinct : ["color", "position"].Nodup := by decide
  refine isForm.object_settles (fun _ => rfl) rfl distinct fun shown lookup => ?_
  simp only [(Color.settles isForm stop.color).required?_eq (lookup "color"),
    (isForm.float_settles stop.position).required?_eq (lookup "position")]
  rfl

/-! ## Kinds with names -/

theorem BlendMode.steady : Steady form decode? encode := by
  intro json mode decoded
  rcases Option.map_eq_some_iff.mp decoded with ⟨name, _, same⟩
  have settles := isForm.string_settles mode.name
  refine ⟨?_, settles.notNull⟩
  rw [encode, decode?, settles.read, ← same, Option.map_some, name_ofName]

theorem Effect.steady : Steady form decode? encode := by
  intro json effect decoded
  rcases isForm.exists_fields decoded with ⟨given, _, read⟩
  simp only [Option.bind_eq_bind, Option.bind_eq_some_iff, Option.pure_def, Option.some_inj]
    at read
  rcases read with ⟨name, _, visible, _, radius, _, spread, _, color, _, offset, _, same⟩
  have kind : EffectKind.ofName effect.kind.name = effect.kind := by
    rw [← same, EffectKind.name_ofName]
  have distinct : ["type", "visible", "radius", "spread", "color", "offset"].Nodup := by decide
  refine isForm.object_settles (fun _ => rfl) rfl distinct fun shown lookup => ?_
  simp only [(isForm.string_settles effect.kind.name).required?_eq (lookup "type"),
    (isForm.bool_settles effect.visible).defaulted?_eq true (lookup "visible"),
    (isForm.float_settles effect.radius).defaulted?_eq 0.0 (lookup "radius"),
    (isForm.float_settles effect.spread).defaulted?_eq 0.0 (lookup "spread"),
    isForm.open?_eq (fun color _ => Color.settles isForm color) (lookup "color"),
    isForm.open?_eq (fun offset _ => Vector2.settles isForm offset) (lookup "offset"),
    Option.bind_eq_bind, Option.bind_some, kind]
  rfl

/-- A paint settles if its source is made from its own parts. -/
theorem Paint.settles_of_source {paint : Paint}
    (source : PaintSource.ofParts paint.source.typeName paint.source.color?
      paint.source.gradient paint.source.reference? = paint.source)
    (blendSettles : forall mode, mode ∈ paint.blendMode ->
      Settles form BlendMode.decode? BlendMode.encode mode) :
    Settles form decode? encode paint := by
  refine isForm.object_settles (fun _ => rfl) paint.encode_eq paint.distinct_entries
    fun shown lookup => ?_
  have blendFound : shown.lookup "blendMode" =
      paint.blendMode.map fun mode => form mode.encode := by
    rw [lookup "blendMode", paint.lookup_blendMode, Option.map_map]
    rfl
  have colorFound : shown.lookup "color" =
      paint.source.color?.map fun color => form color.encode := by
    rw [lookup "color", paint.lookup_source (by decide), paint.source.lookup_color,
      Option.map_map]
    rfl
  have handlesFound := lookup "gradientHandlePositions"
  rw [paint.lookup_source (by decide), paint.source.lookup_handles] at handlesFound
  have stopsFound := lookup "gradientStops"
  rw [paint.lookup_source (by decide), paint.source.lookup_stops] at stopsFound
  have referenceFound : shown.lookup "imageRef" =
      paint.source.reference?.map fun reference => form (.string reference) := by
    rw [lookup "imageRef", paint.lookup_source (by decide), paint.source.lookup_reference,
      Option.map_map]
    rfl
  simp only [(isForm.string_settles paint.source.typeName).required?_eq (lookup "type"),
    (isForm.bool_settles paint.visible).defaulted?_eq true (lookup "visible"),
    (isForm.float_settles paint.opacity).defaulted?_eq 1.0 (lookup "opacity"),
    open?_eq_of_map blendSettles blendFound,
    open?_eq_of_map (fun color _ => Color.settles isForm color) colorFound,
    isForm.defaulted?_eq_of_skipped (fun handle _ => Vector2.settles isForm handle) handlesFound,
    isForm.defaulted?_eq_of_skipped (fun stop _ => ColorStop.settles isForm stop) stopsFound,
    open?_eq_of_map (fun reference _ => isForm.string_settles reference) referenceFound,
    Option.bind_eq_bind, Option.bind_some, source]
  rfl

theorem Paint.steady : Steady form decode? encode := by
  intro json paint decoded
  rcases isForm.exists_fields decoded with ⟨given, formed, read⟩
  simp only [Option.bind_eq_bind, Option.bind_eq_some_iff, Option.pure_def, Option.some_inj]
    at read
  rcases read with ⟨typeName, _, visible, _, opacity, _, blendMode, blended, color, _,
    handles, _, stops, _, reference, _, same⟩
  refine settles_of_source isForm (PaintSource.ofParts_own (congrArg Paint.source same)) ?_
  rw [← same]
  exact formed.settles_of_open? (BlendMode.steady isForm) blended

theorem ExportConstraint.settles (constraint : ExportConstraint) :
    Settles form decode? encode constraint := by
  have distinct : ["type", "value"].Nodup := by decide
  refine isForm.object_settles (fun _ => rfl) rfl distinct fun shown lookup => ?_
  simp only [(isForm.choice_settles constraint.kind.name).required?_eq (lookup "type"),
    (isForm.float_settles constraint.value).required?_eq (lookup "value"),
    Option.bind_eq_bind, Option.bind_some, ConstraintKind.ofName?_name]
  rfl

theorem ExportSetting.steady : Steady form decode? encode := by
  intro json setting decoded
  rcases isForm.exists_fields decoded with ⟨given, _, read⟩
  simp only [Option.bind_eq_bind, Option.bind_eq_some_iff, Option.pure_def, Option.some_inj]
    at read
  rcases read with ⟨name, _, suffix, _, constraint, _, same⟩
  have format : ExportFormat.ofName setting.format.name = setting.format := by
    rw [← same, ExportFormat.name_ofName]
  have distinct : ["format", "suffix", "constraint"].Nodup := by decide
  refine isForm.object_settles (fun _ => rfl) rfl distinct fun shown lookup => ?_
  simp only [(isForm.string_settles setting.format.name).required?_eq (lookup "format"),
    (isForm.string_settles setting.suffix).defaulted?_eq "" (lookup "suffix"),
    (ExportConstraint.settles isForm setting.constraint).required?_eq (lookup "constraint"),
    Option.bind_eq_bind, Option.bind_some, format]
  rfl

/-- A style settles if its flags do. -/
theorem TypeStyle.settles_of_flags {style : TypeStyle}
    (flagsSettle : forall flags, flags ∈ style.featureFlags ->
      Settles form (asMap? asCount?) (ofMap ofNat) flags) :
    Settles form decode? encode style := by
  have distinct : [ "fontFamily", "fontWeight", "fontSize", "letterSpacing",
      "lineHeightPercentFontSize", "textAlignHorizontal", "textDecoration", "textCase",
      "paragraphIndent", "paragraphSpacing", "opentypeFlags" ].Nodup := by decide
  refine isForm.object_settles (fun _ => rfl) rfl distinct fun shown lookup => ?_
  have text : forall name value,
      shown.lookup name = some (form (ofOption .string value)) ->
        open? shown name asString? = some value := fun _ _ found =>
    isForm.open?_eq (fun given _ => isForm.string_settles given) found
  have number : forall name value,
      shown.lookup name = some (form (ofOption ofFloat value)) ->
        open? shown name asFloat? = some value := fun _ _ found =>
    isForm.open?_eq (fun given _ => isForm.float_settles given) found
  simp only [text _ _ (lookup "fontFamily"), number _ _ (lookup "fontWeight"),
    number _ _ (lookup "fontSize"), number _ _ (lookup "letterSpacing"),
    number _ _ (lookup "lineHeightPercentFontSize"), text _ _ (lookup "textAlignHorizontal"),
    text _ _ (lookup "textDecoration"), text _ _ (lookup "textCase"),
    number _ _ (lookup "paragraphIndent"), number _ _ (lookup "paragraphSpacing"),
    isForm.open?_eq flagsSettle (lookup "opentypeFlags"), Option.bind_eq_bind, Option.bind_some]
  rfl

theorem TypeStyle.steady : Steady form decode? encode := by
  intro json style decoded
  rcases isForm.exists_fields decoded with ⟨given, formed, read⟩
  simp only [Option.bind_eq_bind, Option.bind_eq_some_iff, Option.pure_def, Option.some_inj]
    at read
  rcases read with ⟨family, _, weight, _, size, _, spacing, _, height, _, alignment, _,
    decoration, _, letterCase, _, indent, _, paragraph, _, flags, found, same⟩
  apply settles_of_flags isForm
  rw [← same]
  exact formed.settles_of_open? (isForm.map_steady isForm.count_steady) found

end Kinds
end SceneMarkup

import Mathlib.Data.List.Basic
import SceneMarkup.Style.Layer

namespace SceneMarkup

/-!
# Background layers

Every visible fill of a kind that stylesheets know gives one background layer, and the
others give none.  A background may hold any number of gradients and images, but a bare
color only as its last layer.

Whether a solid fill is the last one is decided while fills of other kinds are still
counted.  So a solid fill that has nothing but such fills below it is written as a flat
gradient, although its layer comes last.  This is the only way in which a fill without a
layer shows in the layers of the others.
-/

/-- A color as a gradient between equal colors. -/
def flatGradient (value : String) : String :=
  "linear-gradient(0deg, " ++ value ++ ", " ++ value ++ ")"

/-- A style value that may stand for any background layer: a gradient or an image. -/
def IsPicture (value : String) : Prop :=
  Exists fun inside => value = "linear-gradient(" ++ inside ++ ")" ∨
    value = "radial-gradient(" ++ inside ++ ")" ∨ value = "url(" ++ inside ++ ")"

/-- A style value that is a color and nothing else. -/
def IsBareColor (value : String) : Prop :=
  Exists fun color : Color => Exists fun opacity => value = color.css opacity

/-- Stylesheets know this kind of paint. -/
def PaintSource.HasCounterpart : PaintSource -> Prop
  | .solid _ => True
  | .linearGradient _ => True
  | .radialGradient _ => True
  | .image _ => True
  | .angularGradient _ => False
  | .diamondGradient _ => False
  | .unsupported _ => False

instance : (source : PaintSource) -> Decidable source.HasCounterpart
  | .solid _ => isTrue trivial
  | .linearGradient _ => isTrue trivial
  | .radialGradient _ => isTrue trivial
  | .image _ => isTrue trivial
  | .angularGradient _ => isFalse False.elim
  | .diamondGradient _ => isFalse False.elim
  | .unsupported _ => isFalse False.elim

/-- A paint may be written as a style value.  A solid one may be written in two ways. -/
def Paint.IsWrittenAs (paint : Paint) (value : String) : Prop :=
  match paint.source with
  | .solid color =>
      value = color.css paint.opacity ∨ value = flatGradient (color.css paint.opacity)
  | .linearGradient gradient => value = gradient.linear
  | .radialGradient gradient => value = gradient.radial
  | .image reference => value = "url(\"./" ++ reference ++ ".png\")"
  | .angularGradient _ => False
  | .diamondGradient _ => False
  | .unsupported _ => False

/-- A paint asks for a blend mode, and not for the normal one. -/
def Paint.AsksForOther (paint : Paint) : Prop :=
  Exists fun mode => paint.blendMode = some mode ∧ mode ≠ .normal

/-- A layer shows a paint in the mode that the paint asks for, or in the normal one where
stylesheets have no keyword for it. -/
structure FillLayer.Shows (layer : FillLayer) (paint : Paint) : Prop where
  written : paint.IsWrittenAs layer.value
  mode : layer.mode = (paint.blendMode.bind BlendMode.keyword?).getD "normal"
  blended : layer.blended = true ↔ paint.AsksForOther

namespace Fills

/-- The visible fills of kinds that stylesheets know, topmost first. -/
def kept (fills : List Paint) : List Paint :=
  (fills.filter fun paint => paint.visible && decide paint.source.HasCounterpart).reverse

/-- The visible fills of all other kinds, topmost first. -/
def dropped (fills : List Paint) : List Paint :=
  (fills.filter fun paint => paint.visible && ! decide paint.source.HasCounterpart).reverse

/-- The lowest visible fill, whatever its kind, is in one color. -/
def lowestIsSolid (fills : List Paint) : Bool :=
  (fills.find? (·.visible)).any (·.isSolid)

/-- Rows of layers differ in the last layer only, which is a bare color in the first row
and a flat gradient in the same color in the second one. -/
def FlattensLast (bare flat : List FillLayer) : Prop :=
  Exists fun front => Exists fun last : FillLayer => IsBareColor last.value ∧
    bare = front ++ [last] ∧ flat = front ++ [{ last with value := flatGradient last.value }]

/-- A fill between others is the lowest visible one, and the next visible fill above it is
in one color. -/
def LiesUnderSolid (below above : List Paint) : Prop :=
  (forall paint, paint ∈ below -> paint.visible = false) ∧ lowestIsSolid above = true

instance (below above : List Paint) : Decidable (LiesUnderSolid below above) :=
  inferInstanceAs (Decidable
    ((forall paint, paint ∈ below -> paint.visible = false) ∧ lowestIsSolid above = true))

end Fills

/-! ## Style values -/

theorem IsPicture.not_isBareColor {value : String} (picture : IsPicture value) :
    ¬ IsBareColor value := by
  rintro ⟨color, opacity, rfl⟩
  -- The first two letters tell colors from pictures.
  have begins : (color.css opacity).toList.head? = some '#' ∨
      (color.css opacity).toList.take 2 = ['r', 'g'] := by
    simp only [Color.css]
    split
    · exact Or.inl (by simp [Color.hex])
    · exact Or.inr (by simp)
  rcases picture with ⟨inside, same | same | same⟩ <;> rw [same] at begins <;>
    simp at begins

theorem flatGradient_isPicture (value : String) : IsPicture (flatGradient value) := by
  refine ⟨"0deg, " ++ value ++ ", " ++ value, Or.inl ?_⟩
  calc flatGradient value
      = "linear-gradient(" ++ "0deg, " ++ value ++ ", " ++ value ++ ")" := rfl
    _ = "linear-gradient(" ++ ("0deg, " ++ value ++ ", " ++ value) ++ ")" := by
        rw [← String.append_assoc, ← String.append_assoc, ← String.append_assoc]

theorem Gradient.linear_isPicture (gradient : Gradient) : IsPicture gradient.linear := by
  have enclosed : forall name angle unit stops ends : String,
      name ++ angle ++ unit ++ stops ++ ends = name ++ (angle ++ unit ++ stops) ++ ends := by
    simp [String.append_assoc]
  exact ⟨_, Or.inl (enclosed _ _ _ _ _)⟩

theorem imageAddress_isPicture (reference : String) :
    IsPicture ("url(\"./" ++ reference ++ ".png\")") := by
  refine ⟨"\"./" ++ reference ++ ".png\"", Or.inr (Or.inr ?_)⟩
  calc "url(\"./" ++ reference ++ ".png\")"
      = "url(" ++ "\"./" ++ reference ++ (".png\"" ++ ")") := rfl
    _ = "url(" ++ ("\"./" ++ reference ++ ".png\"") ++ ")" := by
        rw [← String.append_assoc, ← String.append_assoc, ← String.append_assoc]

/-! ## One paint -/

deriving instance ReflBEq, LawfulBEq for BlendMode

namespace Paint

variable {paint : Paint} {layer : FillLayer}

/-- The layer of a paint, if there is one. -/
def layer? (paint : Paint) (isLast : Bool) : Option FillLayer :=
  (paint.layerValue? isLast).map fun value =>
    ⟨value, paint.modeKeyword, paint.asksForBlending⟩

theorem asksForBlending_iff (paint : Paint) :
    paint.asksForBlending = true ↔ paint.AsksForOther := by
  rw [asksForBlending, AsksForOther]
  cases paint.blendMode with
  | none => simp
  | some mode => simp

theorem isWrittenAs_of_layerValue? {isLast : Bool} {value : String}
    (found : paint.layerValue? isLast = some value) : paint.IsWrittenAs value := by
  rcases paint with ⟨source, shown, opacity, blendMode⟩
  cases source with
  | solid color =>
      have same := Option.some.inj found
      cases isLast with
      | true => exact Or.inl same.symm
      | false => exact Or.inr same.symm
  | linearGradient gradient => exact (Option.some.inj found).symm
  | radialGradient gradient => exact (Option.some.inj found).symm
  | image reference => exact (Option.some.inj found).symm
  | angularGradient gradient => cases found
  | diamondGradient gradient => cases found
  | unsupported typeName => cases found

theorem shows_of_layer? {isLast : Bool} (found : paint.layer? isLast = some layer) :
    layer.Shows paint := by
  rw [layer?, Option.map_eq_some_iff] at found
  rcases found with ⟨value, written, rfl⟩
  exact ⟨isWrittenAs_of_layerValue? written, rfl, paint.asksForBlending_iff⟩

theorem isSome_layer?_iff (paint : Paint) (isLast : Bool) :
    (paint.layer? isLast).isSome = true ↔ paint.source.HasCounterpart := by
  rw [layer?, Option.isSome_map, layerValue?]
  cases paint.source <;> simp [PaintSource.HasCounterpart]

/-- Before the last place, a paint is written as a picture. -/
theorem isPicture_of_layer? (found : paint.layer? false = some layer) :
    IsPicture layer.value := by
  rw [layer?, Option.map_eq_some_iff] at found
  rcases found with ⟨value, written, rfl⟩
  rcases paint with ⟨source, shown, opacity, blendMode⟩
  cases source with
  | solid color =>
      rw [← Option.some.inj written]
      exact flatGradient_isPicture _
  | linearGradient gradient =>
      rw [← Option.some.inj written]
      exact gradient.linear_isPicture
  | radialGradient gradient =>
      rw [← Option.some.inj written]
      exact ⟨gradient.stopList, Or.inr (Or.inl rfl)⟩
  | image reference =>
      rw [← Option.some.inj written]
      exact imageAddress_isPicture reference
  | angularGradient gradient => cases written
  | diamondGradient gradient => cases written
  | unsupported typeName => cases written

/-- A solid paint is a bare color in the last place and a flat gradient before it. -/
theorem layer?_of_isSolid (solid : paint.isSolid = true) :
    Exists fun last : FillLayer => IsBareColor last.value ∧ paint.layer? true = some last ∧
      paint.layer? false = some { last with value := flatGradient last.value } := by
  rcases paint with ⟨source, shown, opacity, blendMode⟩
  cases source with
  | solid color => exact ⟨_, ⟨color, opacity, rfl⟩, rfl, rfl⟩
  | _ => cases solid

/-- The place makes no difference to a paint in more than one color. -/
theorem layer?_true_eq (colored : ¬ paint.isSolid = true) :
    paint.layer? true = paint.layer? false := by
  rcases paint with ⟨source, shown, opacity, blendMode⟩
  cases source with
  | solid color => exact absurd rfl colored
  | _ => rfl

theorem isBareColor_iff_isSolid (found : paint.layer? true = some layer) :
    IsBareColor layer.value ↔ paint.isSolid = true := by
  by_cases solid : paint.isSolid = true
  · rcases layer?_of_isSolid solid with ⟨last, bare, written, _⟩
    rw [Option.some.inj (found.symm.trans written)]
    exact iff_of_true bare solid
  · rw [layer?_true_eq solid] at found
    exact iff_of_false (isPicture_of_layer? found).not_isBareColor solid

theorem hasCounterpart_of_isSolid (solid : paint.isSolid = true) :
    paint.source.HasCounterpart := by
  rcases layer?_of_isSolid solid with ⟨last, _, written, _⟩
  rw [← paint.isSome_layer?_iff true, written, Option.isSome_some]

end Paint

/-! ## Rows of layers -/

namespace Fills

theorem layersFrom_cons (paint : Paint) (rest : List Paint) :
    layersFrom (paint :: rest) = (paint.layer? rest.isEmpty).toList ++ layersFrom rest := by
  rw [layersFrom, Paint.layer?]
  cases paint.layerValue? rest.isEmpty <;> rfl

/-- Only the lowest visible fill stands in the last place. -/
theorem layersFrom_concat (front : List Paint) (lowest : Paint) :
    layersFrom (front ++ [lowest]) =
      front.filterMap (·.layer? false) ++ (lowest.layer? true).toList := by
  induction front with
  | nil => simp [layersFrom_cons, layersFrom]
  | cons paint rest ih =>
      have inside : (rest ++ [lowest]).isEmpty = false := by simp
      rw [List.cons_append, layersFrom_cons, ih, inside, List.filterMap_cons]
      cases paint.layer? false <;> simp

theorem filterMap_concat (front : List Paint) (lowest : Paint) :
    (front ++ [lowest]).filterMap (·.layer? false) =
      front.filterMap (·.layer? false) ++ (lowest.layer? false).toList := by
  rw [List.filterMap_append, List.filterMap_cons]
  cases lowest.layer? false <;> simp

/-- Each layer shows a visible fill of a kind that has one, and each of these is shown. -/
theorem forall₂_layersFrom (fills : List Paint) :
    List.Forall₂ FillLayer.Shows (layersFrom fills)
      (fills.filter fun paint => decide paint.source.HasCounterpart) := by
  induction fills with
  | nil => exact .nil
  | cons paint rest ih =>
      have known := paint.isSome_layer?_iff rest.isEmpty
      rw [layersFrom_cons, List.filter_cons]
      cases found : paint.layer? rest.isEmpty with
      | none =>
          rw [found] at known
          simpa [← known] using ih
      | some layer =>
          rw [found] at known
          have shown := List.Forall₂.cons (Paint.shows_of_layer? found) ih
          simpa [← known] using shown

/-! ## Visible fills -/

variable {fills front : List Paint} {lowest : Paint}

theorem visible_append (below above : List Paint) :
    visible (below ++ above) = visible above ++ visible below := by
  simp [visible]

theorem visible_eq_nil_iff (fills : List Paint) :
    visible fills = [] ↔ forall paint, paint ∈ fills -> paint.visible = false := by
  simp [visible]

theorem kept_eq (fills : List Paint) :
    kept fills = (visible fills).filter fun paint => decide paint.source.HasCounterpart := by
  rw [kept, visible, List.filter_filter, List.filter_reverse]
  simp only [Bool.and_comm]

theorem find?_visible_eq (fills : List Paint) :
    fills.find? (·.visible) = (visible fills).getLast? := by
  rw [visible, List.filter_reverse, List.getLast?_reverse, List.head?_filter]

theorem layers_of_concat (listed : visible fills = front ++ [lowest]) :
    layers fills = front.filterMap (·.layer? false) ++ (lowest.layer? true).toList := by
  rw [layers, listed, layersFrom_concat]

theorem lowestIsSolid_of_concat (listed : visible fills = front ++ [lowest]) :
    lowestIsSolid fills = lowest.isSolid := by
  rw [lowestIsSolid, find?_visible_eq, listed, List.getLast?_concat, Option.any_some]

theorem exists_lowest_of_lowestIsSolid (solid : lowestIsSolid fills = true) :
    Exists fun front => Exists fun lowest =>
      visible fills = front ++ [lowest] ∧ lowest.isSolid = true := by
  rcases List.eq_nil_or_concat' (visible fills) with nothing | ⟨front, lowest, listed⟩
  · rw [lowestIsSolid, find?_visible_eq, nothing] at solid
    cases solid
  · rw [lowestIsSolid_of_concat listed] at solid
    exact ⟨front, lowest, listed, solid⟩

theorem isPicture_of_mem_front {layer : FillLayer}
    (member : layer ∈ front.filterMap (·.layer? false)) : IsPicture layer.value := by
  rcases List.mem_filterMap.mp member with ⟨paint, _, found⟩
  exact Paint.isPicture_of_layer? found

theorem isPicture_of_mem_dropLast {layer : FillLayer} (member : layer ∈ (layers fills).dropLast) :
    IsPicture layer.value := by
  rcases List.eq_nil_or_concat' (visible fills) with nothing | ⟨front, lowest, listed⟩
  · rw [layers, nothing] at member
    cases member
  · rw [layers_of_concat listed] at member
    cases found : lowest.layer? true with
    | none =>
        rw [found, Option.toList_none, List.append_nil] at member
        exact isPicture_of_mem_front ((List.dropLast_sublist _).subset member)
    | some last =>
        rw [found, Option.toList_some, List.dropLast_concat] at member
        exact isPicture_of_mem_front member

/-- The last layer is a bare color exactly if the lowest visible fill of all is solid. -/
theorem isBareColor_last_iff {last : FillLayer} (ends : (layers fills).getLast? = some last) :
    IsBareColor last.value ↔ lowestIsSolid fills = true := by
  rcases List.eq_nil_or_concat' (visible fills) with nothing | ⟨front, lowest, listed⟩
  · rw [layers, nothing] at ends
    cases ends
  · rw [layers_of_concat listed] at ends
    rw [lowestIsSolid_of_concat listed]
    cases found : lowest.layer? true with
    | some layer =>
        rw [found, Option.toList_some, List.getLast?_concat] at ends
        rw [← Option.some.inj ends]
        exact Paint.isBareColor_iff_isSolid found
    | none =>
        rw [found, Option.toList_none, List.append_nil] at ends
        have picture := isPicture_of_mem_front (List.mem_of_getLast? ends)
        refine iff_of_false picture.not_isBareColor ?_
        intro solid
        have known := (lowest.isSome_layer?_iff true).mpr (Paint.hasCounterpart_of_isSolid solid)
        rw [found] at known
        cases known

/-! ## Fills without a layer -/

section Unknown

variable {below above : List Paint} {other : Paint}

theorem visible_append_cons (shown : other.visible = true) :
    visible (below ++ other :: above) = visible above ++ other :: visible below := by
  rw [visible_append]
  simp [visible, shown]

theorem layer?_eq_none (unknown : ¬ other.source.HasCounterpart) (isLast : Bool) :
    other.layer? isLast = none := by
  rw [← other.isSome_layer?_iff isLast] at unknown
  simpa using unknown

/-- Below every other visible fill, a fill without a layer takes the last place from the
next one above it. -/
theorem layers_over_unknown (shown : other.visible = true)
    (unknown : ¬ other.source.HasCounterpart) (nothing : visible below = []) :
    layers (below ++ other :: above) = (visible above).filterMap (·.layer? false) := by
  have listed : visible (below ++ other :: above) = visible above ++ [other] := by
    rw [visible_append_cons shown, nothing]
  rw [layers_of_concat listed, layer?_eq_none unknown, Option.toList_none, List.append_nil]

theorem layers_around_unknown (shown : other.visible = true)
    (unknown : ¬ other.source.HasCounterpart) (listed : visible below = front ++ [lowest]) :
    layers (below ++ other :: above) = layers (below ++ above) := by
  have without : visible (below ++ above) = (visible above ++ front) ++ [lowest] := by
    rw [List.append_assoc, ← listed, visible_append]
  have within : visible (below ++ other :: above) =
      (visible above ++ other :: front) ++ [lowest] := by
    rw [visible_append_cons shown, listed]
    simp
  rw [layers_of_concat without, layers_of_concat within, List.filterMap_append,
    List.filterMap_append, List.filterMap_cons, layer?_eq_none unknown]

/-- Without the fill below it, a solid fill that comes last is a bare color. -/
theorem flattensLast_of_liesUnderSolid (shown : other.visible = true)
    (unknown : ¬ other.source.HasCounterpart) (under : LiesUnderSolid below above) :
    FlattensLast (layers (below ++ above)) (layers (below ++ other :: above)) := by
  have nothing := (visible_eq_nil_iff below).mpr under.1
  rcases exists_lowest_of_lowestIsSolid under.2 with ⟨front, lowest, listed, solid⟩
  rcases Paint.layer?_of_isSolid solid with ⟨last, bare, written, flat⟩
  have without : visible (below ++ above) = front ++ [lowest] := by
    rw [visible_append, nothing, List.append_nil, listed]
  refine ⟨front.filterMap (·.layer? false), last, bare, ?_, ?_⟩
  · rw [layers_of_concat without, written, Option.toList_some]
  · rw [layers_over_unknown shown unknown nothing, listed, filterMap_concat, flat,
      Option.toList_some]

theorem layers_eq_of_not_liesUnderSolid (shown : other.visible = true)
    (unknown : ¬ other.source.HasCounterpart) (apart : ¬ LiesUnderSolid below above) :
    layers (below ++ other :: above) = layers (below ++ above) := by
  rcases List.eq_nil_or_concat' (visible below) with nothing | ⟨front, lowest, listed⟩
  · rw [layers_over_unknown shown unknown nothing, layers, visible_append, nothing,
      List.append_nil]
    rcases List.eq_nil_or_concat' (visible above) with none | ⟨front, lowest, listed⟩
    · rw [none]
      rfl
    · have colored : ¬ lowest.isSolid = true := by
        intro solid
        rw [← lowestIsSolid_of_concat listed] at solid
        exact apart ⟨(visible_eq_nil_iff below).mp nothing, solid⟩
      rw [listed, layersFrom_concat, filterMap_concat, Paint.layer?_true_eq colored]
  · exact layers_around_unknown shown unknown listed

end Unknown

/-! ## Declarations -/

/-- The entries of a list that is written with commas, without blanks. -/
def listEntries (text : String) : List String :=
  ((text.toList.filter (· ≠ ' ')).splitOn ',').map String.ofList

theorem listEntries_of_plain {word : String}
    (plain : ' ' ∉ word.toList ∧ ',' ∉ word.toList) : listEntries word = [word] := by
  have unspaced : word.toList.filter (· ≠ ' ') = word.toList := by
    rw [List.filter_eq_self]
    intro letter member
    simp only [decide_eq_true_eq]
    exact fun blank => plain.1 (blank ▸ member)
  have whole := List.splitOn_intercalate ',' (List.forall_mem_singleton.mpr plain.2) (by simp)
  rw [listEntries, unspaced]
  simpa using congrArg (List.map String.ofList) whole

theorem listEntries_append_comma (left right : String) :
    listEntries (left ++ ", " ++ right) = listEntries left ++ listEntries right := by
  have letters : (left ++ ", " ++ right).toList.filter (· ≠ ' ') =
      left.toList.filter (· ≠ ' ') ++ ',' :: right.toList.filter (· ≠ ' ') := by simp
  rw [listEntries, letters, List.splitOn_append_cons_self, List.map_append]
  rfl

/-- Words without blanks and commas are read back from the list of them. -/
theorem listEntries_intercalate {words : List String} (nonempty : words ≠ [])
    (plain : forall word, word ∈ words -> ' ' ∉ word.toList ∧ ',' ∉ word.toList) :
    listEntries (", ".intercalate words) = words := by
  induction words with
  | nil => exact absurd rfl nonempty
  | cons word rest ih =>
      rw [List.forall_mem_cons] at plain
      cases rest with
      | nil => rw [String.intercalate_singleton, listEntries_of_plain plain.1]
      | cons next others =>
          rw [String.intercalate_cons_cons, listEntries_append_comma,
            listEntries_of_plain plain.1, ih (by simp) plain.2]
          rfl

theorem mode_plain (paint : Paint) :
    ' ' ∉ paint.modeKeyword.toList ∧ ',' ∉ paint.modeKeyword.toList := by
  have keywords : forall row, row ∈ BlendMode.known ->
      ' ' ∉ row.2.2.toList ∧ ',' ∉ row.2.2.toList := by decide
  rw [Paint.modeKeyword]
  cases found : paint.blendMode.bind BlendMode.keyword? with
  | none => decide
  | some keyword =>
      rcases Option.bind_eq_some_iff.mp found with ⟨mode, _, named⟩
      rw [BlendMode.keyword?, Option.map_eq_some_iff] at named
      rcases named with ⟨row, listed, rfl⟩
      exact keywords row (List.mem_of_find?_eq_some listed)

theorem mem_background_iff (fills : List Paint) (value : String) :
    ("background", value) ∈ declarations fills ↔
      layers fills ≠ [] ∧ value = ", ".intercalate ((layers fills).map (·.value)) := by
  rw [declarations]
  generalize layers fills = found
  cases found with
  | nil => simp
  | cons first rest =>
      cases (first :: rest).any (·.blended) <;> simp

theorem mem_blendModes_iff (fills : List Paint) (value : String) :
    ("background-blend-mode", value) ∈ declarations fills ↔
      (layers fills).any (·.blended) = true ∧
        value = ", ".intercalate ((layers fills).map (·.mode)) := by
  rw [declarations]
  generalize layers fills = found
  cases found with
  | nil => simp
  | cons first rest =>
      cases (first :: rest).any (·.blended) <;> simp

theorem any_blended_iff {layers : List FillLayer} {paints : List Paint}
    (showing : List.Forall₂ FillLayer.Shows layers paints) :
    layers.any (·.blended) = true ↔
      Exists fun paint => paint ∈ paints ∧ paint.AsksForOther := by
  induction showing with
  | nil => simp
  | cons first rest ih => simp [first.blended, ih]

theorem modes_plain {layers : List FillLayer} {paints : List Paint}
    (showing : List.Forall₂ FillLayer.Shows layers paints) :
    forall mode, mode ∈ layers.map (·.mode) -> ' ' ∉ mode.toList ∧ ',' ∉ mode.toList := by
  induction showing with
  | nil => simp
  | cons first rest ih =>
      rw [List.map_cons, List.forall_mem_cons, first.mode]
      exact ⟨mode_plain _, ih⟩

theorem warnings_eq (fills : List Paint) :
    warnings fills = (dropped fills).map fun paint => .unsupportedFill paint.source.typeName := by
  have unknown : forall paint : Paint,
      paint.isFillable = decide paint.source.HasCounterpart := by
    intro paint
    rw [Bool.eq_iff_iff, decide_eq_true_eq, ← paint.isSome_layer?_iff true, Paint.layer?,
      Option.isSome_map, Paint.isFillable]
  rw [warnings, dropped, visible, List.filter_filter, List.filter_reverse]
  simp only [unknown, Bool.and_comm]

/-- The visible fills of kinds that stylesheets know have one layer each, in reverse order.
All layers but the last are gradients and images and no bare colors, and the last is a bare
color exactly if the lowest visible fill of all is solid.  Every other visible fill has a
warning in place of a layer.  It changes nothing about the other layers, unless it is the
lowest visible fill and the next one is solid: then the last layer, which is this color, is
written as a flat gradient in it.

A background lists the values of all layers.  Blend modes are declared exactly if some fill
with a layer asks for a mode other than the normal one, and then there is one mode for each
layer, in the same order. -/
theorem background_layers_aligned (fills : List Paint) :
    List.Forall₂ FillLayer.Shows (layers fills) (kept fills) ∧
      (forall layer, layer ∈ (layers fills).dropLast ->
        IsPicture layer.value ∧ ¬ IsBareColor layer.value) ∧
      (forall last, (layers fills).getLast? = some last ->
        (IsBareColor last.value ↔ lowestIsSolid fills = true)) ∧
      warnings fills =
        (dropped fills).map (fun paint => .unsupportedFill paint.source.typeName) ∧
      (forall below other above, fills = below ++ other :: above -> other.visible = true ->
        ¬ other.source.HasCounterpart ->
          if LiesUnderSolid below above then FlattensLast (layers (below ++ above)) (layers fills)
          else layers fills = layers (below ++ above)) ∧
      (forall value, ("background", value) ∈ declarations fills ↔
        layers fills ≠ [] ∧ value = ", ".intercalate ((layers fills).map (·.value))) ∧
      (forall value, ("background-blend-mode", value) ∈ declarations fills ↔
        (Exists fun paint => paint ∈ kept fills ∧ paint.AsksForOther) ∧
          value = ", ".intercalate ((layers fills).map (·.mode))) ∧
      forall value, ("background-blend-mode", value) ∈ declarations fills ->
        listEntries value = (layers fills).map (·.mode) := by
  have showing : List.Forall₂ FillLayer.Shows (layers fills) (kept fills) := by
    rw [kept_eq]
    exact forall₂_layersFrom (visible fills)
  refine ⟨showing, ?_, fun last => isBareColor_last_iff, warnings_eq fills, ?_,
    mem_background_iff fills, ?_, ?_⟩
  · intro layer member
    have picture := isPicture_of_mem_dropLast member
    exact ⟨picture, picture.not_isBareColor⟩
  · rintro below other above rfl shown unknown
    split
    · rename_i under
      exact flattensLast_of_liesUnderSolid shown unknown under
    · rename_i apart
      exact layers_eq_of_not_liesUnderSolid shown unknown apart
  · intro value
    rw [mem_blendModes_iff, any_blended_iff showing]
  · intro value member
    rw [mem_blendModes_iff] at member
    have nonempty : (layers fills).map (·.mode) ≠ [] := by
      intro nothing
      rw [List.map_eq_nil_iff.mp nothing] at member
      cases member.1
    rw [member.2, listEntries_intercalate nonempty (modes_plain showing)]

/-- An angular gradient, for which stylesheets have no counterpart. -/
def sweep : Paint := ⟨.angularGradient ⟨[], []⟩, true, 1.0, none⟩

/-- A photograph that is multiplied with what lies below. -/
def photo : Paint := ⟨.image "photo", true, 1.0, some .multiply⟩

/-- A fill that nobody sees. -/
def hiddenSweep : Paint := { sweep with visible := false }

def red : Paint := .solid ⟨1.0, 0.0, 0.0, 1.0⟩

/-- A fill without a layer is not without a trace: it lies below a solid fill that would
be a bare color without it. -/
theorem sweep_below_red_flattens :
    sweep.visible = true ∧ ¬ sweep.source.HasCounterpart ∧
      layers [sweep, red] = [⟨"linear-gradient(0deg, #ff0000, #ff0000)", "normal", false⟩] ∧
      layers [red] = [⟨"#ff0000", "normal", false⟩] := by
  decide +kernel

/-- A hidden fill below and the photograph on top make no difference to this. -/
theorem sweep_below_red_and_photo :
    LiesUnderSolid [hiddenSweep] [red, photo] ∧
      FlattensLast (layers [hiddenSweep, red, photo])
        (layers [hiddenSweep, sweep, red, photo]) ∧
      listEntries "multiply, normal" = (layers [hiddenSweep, sweep, red, photo]).map (·.mode) := by
  have aligned := background_layers_aligned [hiddenSweep, sweep, red, photo]
  have under : LiesUnderSolid [hiddenSweep] [red, photo] := by decide +kernel
  have flattens := aligned.2.2.2.2.1 [hiddenSweep] sweep [red, photo] rfl rfl not_false
  rw [if_pos under] at flattens
  exact ⟨under, flattens, aligned.2.2.2.2.2.2.2 "multiply, normal" (by decide +kernel)⟩

end Fills
end SceneMarkup

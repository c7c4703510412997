import SceneMarkup.Data.Tree
import SceneMarkup.Proofs.Data.Drawing

namespace SceneMarkup

/-!
# Reading back scenes

The fields of a layer stand among those of its node, so a layer is read from any
entries that have under its names what was written for it.  The same is said of what
a node is apart from its children.  That the fields of a node have different names is
proved once, for all types together.

A tree of nodes settles by induction over the tree: its children were read from
somewhere, so they settle, and a list settles if its items do.
-/

open Json

/-! ## Layers -/

/-- Entries have, under the names of the fields of a layer, what is written for the
layer. -/
def Layer.IsAmong (form : Json -> Json) (layer : Layer) (shown : List (String × Json)) : Prop :=
  forall name, name ∈ fieldNames -> shown.lookup name = (layer.entries.lookup name).map form

/-- A layer settles among the fields of any node. -/
def Layer.Settles (form : Json -> Json) (layer : Layer) : Prop :=
  forall shown, layer.IsAmong form shown -> ofEntries? shown = some layer

section Layers

variable {form : Json -> Json} (isForm : IsForm form)

include isForm

theorem Layer.settles_of_ofEntries? {given : List (String × Json)} (formed : Formed form given)
    {layer : Layer} (read : ofEntries? given = some layer) : layer.Settles form := by
  unfold ofEntries? at read
  simp only [Option.bind_eq_bind, Option.bind_eq_some_iff, Option.pure_def, Option.some_inj]
    at read
  rcases read with ⟨box, _, transform, _, size, _, opacity, _, blendMode, blended, fills,
    filled, strokes, stroked, weight, _, effects, effected, settings, exported, same⟩
  have noPaints : Json.Settles form (asList? Paint.decode?) (ofList Paint.encode) [] :=
    isForm.list_settles fun _ impossible => nomatch impossible
  have noEffects : Json.Settles form (asList? Effect.decode?) (ofList Effect.encode) [] :=
    isForm.list_settles fun _ impossible => nomatch impossible
  have noSettings :
      Json.Settles form (asList? ExportSetting.decode?) (ofList ExportSetting.encode) [] :=
    isForm.list_settles fun _ impossible => nomatch impossible
  have paints := isForm.list_steady (Paint.steady isForm)
  have blendSettles := formed.settles_of_open? (BlendMode.steady isForm) blended
  have fillsSettle := formed.settles_of_defaulted? paints noPaints filled
  have strokesSettle := formed.settles_of_defaulted? paints noPaints stroked
  have effectsSettle :=
    formed.settles_of_defaulted? (isForm.list_steady (Effect.steady isForm)) noEffects effected
  have settingsSettle := formed.settles_of_defaulted?
    (isForm.list_steady (ExportSetting.steady isForm)) noSettings exported
  intro shown among
  have field : forall name value, name ∈ fieldNames -> layer.entries.lookup name = some value ->
      shown.lookup name = some (form value) := by
    intro name value member found
    rw [among name member, found]
    rfl
  subst same
  unfold ofEntries?
  simp only [
    isForm.open?_eq (fun box _ => Rect.settles isForm box)
      (field "absoluteBoundingBox" _ (by decide) rfl),
    isForm.open?_eq (fun transform _ => Transform.settles isForm transform)
      (field "relativeTransform" _ (by decide) rfl),
    isForm.open?_eq (fun size _ => Vector2.settles isForm size) (field "size" _ (by decide) rfl),
    isForm.open?_eq (fun opacity _ => isForm.float_settles opacity)
      (field "opacity" _ (by decide) rfl),
    isForm.open?_eq blendSettles (field "blendMode" _ (by decide) rfl),
    fillsSettle.defaulted?_eq [] (field "fills" _ (by decide) rfl),
    strokesSettle.defaulted?_eq [] (field "strokes" _ (by decide) rfl),
    isForm.open?_eq (fun weight _ => isForm.float_settles weight)
      (field "strokeWeight" _ (by decide) rfl),
    effectsSettle.defaulted?_eq [] (field "effects" _ (by decide) rfl),
    settingsSettle.defaulted?_eq [] (field "exportSettings" _ (by decide) rfl),
    Option.bind_eq_bind, Option.bind_some]
  rfl

end Layers

/-! ## What a node is -/

namespace NodeKind

def type : NodeKind -> NodeType
  | .container kind => kind.type
  | .leaf kind => kind.type

/-- The entries of a node behind those with which every node begins, without its
children. -/
def entries : NodeKind -> List (String × Json)
  | .container .document => []
  | .container (.canvas background) =>
      [("backgroundColor", .ofOption Color.encode background)]
  | .container .group => []
  | .container (.frame clips layer) => [("clipsContent", .bool clips)] ++ layer.entries
  | .container (.component clips layer) => [("clipsContent", .bool clips)] ++ layer.entries
  | .container (.placement componentId clips layer) =>
      [("componentId", .string componentId), ("clipsContent", .bool clips)] ++ layer.entries
  | .leaf (.shape _ layer) => layer.entries
  | .leaf (.rectangle cornerRadius layer) =>
      [("cornerRadius", .ofOption .ofFloat cornerRadius)] ++ layer.entries
  | .leaf (.text characters style layer) =>
      [("characters", .string characters), ("style", style.encode)] ++ layer.entries

/-- Every name that an entry of a kind can have. -/
def names : List String :=
  [ "backgroundColor", "componentId", "clipsContent", "cornerRadius", "characters",
    "style" ] ++ Layer.fieldNames

theorem names_entries (kind : NodeKind) : (kind.entries.map Prod.fst).Sublist names := by
  have withoutLayer : [].Sublist names := by decide
  have canvas : ["backgroundColor"].Sublist names := by decide
  have frame : (["clipsContent"] ++ Layer.fieldNames).Sublist names := by decide
  have placement : (["componentId", "clipsContent"] ++ Layer.fieldNames).Sublist names := by
    decide
  have shape : Layer.fieldNames.Sublist names := by decide
  have rectangle : (["cornerRadius"] ++ Layer.fieldNames).Sublist names := by decide
  have text : (["characters", "style"] ++ Layer.fieldNames).Sublist names := by decide
  cases kind with
  | container kind =>
      cases kind with
      | document | group => exact withoutLayer
      | canvas background => exact canvas
      | frame clips layer | component clips layer => exact frame
      | placement componentId clips layer => exact placement
  | leaf kind =>
      cases kind with
      | shape outline layer => exact shape
      | rectangle cornerRadius layer => exact rectangle
      | text characters style layer => exact text

/-- Entries have, under the names of a kind, what is written for the kind. -/
def IsAmong (form : Json -> Json) (kind : NodeKind) (shown : List (String × Json)) : Prop :=
  forall name, name ∈ names -> shown.lookup name = (kind.entries.lookup name).map form

/-- A kind settles among the fields of any node of its type. -/
def Settles (form : Json -> Json) (kind : NodeKind) : Prop :=
  forall shown, kind.IsAmong form shown -> ofEntries? kind.type shown = some kind

theorem distinct_entries (kind : NodeKind) : (kind.entries.map Prod.fst).Nodup :=
  kind.names_entries.nodup (by decide)

/-- The layer of a kind is found behind the other entries. -/
theorem IsAmong.layer {form : Json -> Json} {kind : NodeKind} {shown : List (String × Json)}
    (among : kind.IsAmong form shown) {front : List (String × Json)} {layer : Layer}
    (split : kind.entries = front ++ layer.entries) : layer.IsAmong form shown := by
  intro name member
  have distinct := kind.distinct_entries
  rw [split, List.map_append, List.nodup_append] at distinct
  have behind : name ∉ front.map Prod.fst := fun first =>
    distinct.2.2 name first name member rfl
  rw [among name (List.mem_append_right _ member), split, lookup_append_of_absent behind]

theorem ofEntries?_shape (outline : Shape) (given : List (String × Json)) :
    ofEntries? outline.type given =
      (Layer.ofEntries? given).map fun layer => leaf (.shape outline layer) := by
  cases outline <;> rfl

section Settling

variable {form : Json -> Json} (isForm : IsForm form) {given : List (String × Json)}
  (formed : Formed form given)

include isForm formed

theorem settles_of_shape (outline : Shape) {kind : NodeKind}
    (read : ofEntries? outline.type given = some kind) :
    kind.type = outline.type ∧ kind.Settles form := by
  rw [ofEntries?_shape] at read
  rcases Option.map_eq_some_iff.mp read with ⟨layer, layered, same⟩
  subst same
  refine ⟨rfl, fun shown among => ?_⟩
  change ofEntries? outline.type shown = _
  rw [ofEntries?_shape, Layer.settles_of_ofEntries? isForm formed layered shown
    (among.layer (List.nil_append _).symm)]
  rfl

/-- What was read as a node of a type is of the type, and is read again. -/
theorem settles_of_ofEntries? {type : NodeType} {kind : NodeKind}
    (read : ofEntries? type given = some kind) : kind.type = type ∧ kind.Settles form := by
  have layerSettles {layer : Layer} (layered : Layer.ofEntries? given = some layer) :=
    Layer.settles_of_ofEntries? isForm formed layered
  have clipped (clips : Bool) {shown : List (String × Json)}
      (found : shown.lookup "clipsContent" = some (form (.bool clips))) :
      defaulted? shown "clipsContent" false asBool? = some clips :=
    (isForm.bool_settles clips).defaulted?_eq false found
  cases type with
  | document | group =>
      cases read
      exact ⟨rfl, fun _ _ => rfl⟩
  | vector => exact settles_of_shape isForm formed .vector read
  | ellipse => exact settles_of_shape isForm formed .ellipse read
  | star => exact settles_of_shape isForm formed .star read
  | regularPolygon => exact settles_of_shape isForm formed .regularPolygon read
  | line => exact settles_of_shape isForm formed .line read
  | canvas =>
      simp only [ofEntries?, Option.bind_eq_bind, Option.bind_eq_some_iff] at read
      rcases read with ⟨background, _, same⟩
      cases same
      refine ⟨rfl, fun shown among => ?_⟩
      have found := among "backgroundColor" (by decide)
      simp only [NodeKind.type, Container.type, ofEntries?,
        isForm.open?_eq (fun color _ => Color.settles isForm color) found]
      rfl
  | frame | component =>
      simp only [ofEntries?, Option.bind_eq_bind, Option.bind_eq_some_iff] at read
      rcases read with ⟨clips, _, layer, layered, same⟩
      cases same
      refine ⟨rfl, fun shown among => ?_⟩
      simp only [NodeKind.type, Container.type, ofEntries?,
        clipped clips (among "clipsContent" (by decide)),
        layerSettles layered shown (among.layer rfl)]
      rfl
  | placement =>
      simp only [ofEntries?, Option.bind_eq_bind, Option.bind_eq_some_iff] at read
      rcases read with ⟨componentId, _, clips, _, layer, layered, same⟩
      cases same
      refine ⟨rfl, fun shown among => ?_⟩
      simp only [NodeKind.type, Container.type, ofEntries?,
        (isForm.string_settles componentId).required?_eq (among "componentId" (by decide)),
        clipped clips (among "clipsContent" (by decide)),
        layerSettles layered shown (among.layer rfl)]
      rfl
  | rectangle =>
      simp only [ofEntries?, Option.bind_eq_bind, Option.bind_eq_some_iff] at read
      rcases read with ⟨cornerRadius, _, layer, layered, same⟩
      cases same
      refine ⟨rfl, fun shown among => ?_⟩
      simp only [NodeKind.type, Leaf.type, ofEntries?,
        isForm.open?_eq (fun radius _ => isForm.float_settles radius)
          (among "cornerRadius" (by decide)),
        layerSettles layered shown (among.layer rfl)]
      rfl
  | text =>
      simp only [ofEntries?, Option.bind_eq_bind, Option.bind_eq_some_iff] at read
      rcases read with ⟨characters, _, style, styled, layer, layered, same⟩
      cases same
      have blank : Json.Settles form TypeStyle.decode? TypeStyle.encode TypeStyle.blank :=
        TypeStyle.settles_of_flags isForm fun _ impossible => nomatch impossible
      have styleSettles := formed.settles_of_defaulted? (TypeStyle.steady isForm) blank styled
      refine ⟨rfl, fun shown among => ?_⟩
      simp only [NodeKind.type, Leaf.type, ofEntries?,
        (isForm.string_settles characters).defaulted?_eq "" (among "characters" (by decide)),
        styleSettles.defaulted?_eq TypeStyle.blank (among "style" (by decide)),
        layerSettles layered shown (among.layer rfl)]
      rfl

end Settling
end NodeKind

/-! ## Nodes without their children -/

theorem NodeType.ofName?_name (type : NodeType) : ofName? type.name = some type := by
  cases type <;> rfl

namespace NodeHead

/-- The entries of a node in front of its children. -/
def entries (head : NodeHead) : List (String × Json) :=
  Node.headEntries head.kind.type head.id head.name ++ head.kind.entries

/-- Every name that an entry of a node can have, apart from that of its children. -/
def names : List String :=
  ["type", "id", "name"] ++ NodeKind.names

theorem names_entries (head : NodeHead) : (head.entries.map Prod.fst).Sublist names := by
  rw [entries, List.map_append]
  exact (List.Sublist.refl ["type", "id", "name"]).append head.kind.names_entries

theorem lookup_kind (head : NodeHead) {name : String} (member : name ∈ NodeKind.names) :
    head.entries.lookup name = head.kind.entries.lookup name := by
  have apart : forall name, name ∈ NodeKind.names -> name ∉ ["type", "id", "name"] := by decide
  exact lookup_append_of_absent (apart name member) _

variable {form : Json -> Json} (isForm : IsForm form)

include isForm

theorem settles_of_ofEntries? {given : List (String × Json)} (formed : Formed form given)
    {nested : Bool} {head : NodeHead} (read : ofEntries? nested given = some head) :
    head.kind.Settles form := by
  simp only [ofEntries?, Option.bind_eq_bind, Option.bind_eq_some_iff, Option.pure_def,
    Option.some_inj] at read
  rcases read with ⟨type, _, _, _, id, _, name, _, kind, kindRead, same⟩
  subst same
  exact (NodeKind.settles_of_ofEntries? isForm formed kindRead).2

/-- What stands in front of the children is read again, whatever the node is a child
of. -/
theorem ofEntries?_eq {head : NodeHead} (settles : head.kind.Settles form) (nested : Bool)
    {shown : List (String × Json)} (distinct : (shown.map Prod.fst).Nodup)
    (lookup : forall name, name ∈ names -> shown.lookup name = (head.entries.lookup name).map form) :
    ofEntries? nested shown = some head := by
  have typeRead : required? shown "type" (NodeType.decode? nested) = some head.kind.type := by
    rw [required?, lookup "type" (by decide)]
    change NodeType.decode? nested (form (.string head.kind.type.name)) = _
    rw [isForm.string]
    exact head.kind.type.ofName?_name
  have kindRead : NodeKind.ofEntries? head.kind.type shown = some head.kind := by
    apply settles
    intro name member
    rw [lookup name (List.mem_append_right _ member), head.lookup_kind member]
  simp only [ofEntries?, typeRead, fields?_eq_of_distinct _ distinct,
    (isForm.string_settles head.id).required?_eq (lookup "id" (by decide)),
    (isForm.string_settles head.name).defaulted?_eq "" (lookup "name" (by decide)),
    Option.bind_eq_bind, Option.bind_some, kindRead]
  rfl

end NodeHead

/-! ## Nodes -/

namespace Node

/-- What a node is, apart from its id, its name and its children. -/
def ownKind : Node -> NodeKind
  | .container _ _ kind _ => .container kind
  | .leaf _ _ kind => .leaf kind

theorem encodeAll_eq (nodes : List Node) : encodeAll nodes = nodes.map encode := by
  induction nodes with
  | nil => rfl
  | cons node rest ih => rw [encodeAll, ih, List.map_cons]

theorem encode_container (id name : String) (kind : Container) (children : List Node) :
    encode (.container id name kind children) =
      .object ((NodeHead.mk id name (.container kind)).entries ++
        [("children", ofList encode children)]) := by
  rw [ofList, ← encodeAll_eq]
  cases kind <;> rw [encode] <;> rfl

theorem encode_leaf (id name : String) (kind : Leaf) :
    encode (.leaf id name kind) = .object (NodeHead.mk id name (.leaf kind)).entries := by
  cases kind <;> rw [encode] <;> rfl

theorem decodeAll?_eq (items : List Json) : decodeAll? items = items.mapM (decodeAt? true) := by
  induction items with
  | nil => rfl
  | cons item rest ih =>
      rw [decodeAll?, ih, List.mapM_cons]
      cases decodeAt? true item with
      | none => rfl
      | some child => cases rest.mapM (decodeAt? true) <;> rfl

theorem childrenAmong?_eq (entries : List (String × Json)) :
    childrenAmong? entries = defaulted? entries "children" [] (asList? (decodeAt? true)) := by
  induction entries with
  | nil => rfl
  | cons entry rest ih =>
      rcases entry with ⟨name, value⟩
      rw [childrenAmong?, ih, defaulted?, defaulted?, lookup_cons_eq_ite]
      by_cases here : name = "children"
      · rw [if_pos here, if_pos here.symm]
        cases value with
        | array items => exact decodeAll?_eq items
        | _ => rfl
      · rw [if_neg here, if_neg fun same => here same.symm]

theorem childrenNamed?_eq (names : List String) (items : List Json) :
    childrenNamed? names items = childrenAmong? (names.zip items) := by
  induction names generalizing items with
  | nil => cases items <;> rfl
  | cons name names ih =>
      cases items with
      | nil => rfl
      | cons item items => rw [childrenNamed?, List.zip_cons_cons, childrenAmong?, ih]

/-- The entries from which a node is read: those of an object, or the items of an array
with the names that its type gives them. -/
def entriesFor? (nested : Bool) : Json -> Option (List (String × Json))
  | .object entries => some entries
  | .array items => (NodeType.namesOfItems? nested items).map (·.zip items)
  | _ => none

/-- However a node is given, it is read from entries. -/
theorem decodeAt?_eq (nested : Bool) (json : Json) :
    decodeAt? nested json =
      (entriesFor? nested json).bind fun entries =>
        (NodeHead.ofEntries? nested entries).bind fun head =>
          head.node? (defaulted? entries "children" [] (asList? (decodeAt? true))) := by
  cases json with
  | object entries =>
      rw [decodeAt?, childrenAmong?_eq]
      change _ = (NodeHead.ofEntries? nested entries).bind _
      cases NodeHead.ofEntries? nested entries <;> rfl
  | array items =>
      rw [decodeAt?, entriesFor?]
      cases NodeType.namesOfItems? nested items with
      | none => rfl
      | some names =>
          dsimp only
          rw [childrenNamed?_eq, childrenAmong?_eq]
          change _ = (NodeHead.ofEntries? nested (names.zip items)).bind _
          cases NodeHead.ofEntries? nested (names.zip items) <;> rfl
  | _ => rfl

variable {form : Json -> Json} (isForm : IsForm form)

include isForm

theorem formed_of_entriesFor? {nested : Bool} {json : Json} {entries : List (String × Json)}
    (found : entriesFor? nested (form json) = some entries) : Formed form entries := by
  unfold entriesFor? at found
  split at found
  · rename_i object
    rcases isForm.exists_entries object with ⟨_, _, shows⟩
    exact Option.some.inj found ▸ shows.values
  · rename_i items array
    rcases Option.map_eq_some_iff.mp found with ⟨names, _, same⟩
    exact same ▸ isForm.formed_zip array names
  · cases found

theorem leaf_settles {id name : String} {kind : Leaf}
    (own : (NodeKind.leaf kind).Settles form) (nested : Bool) :
    Settles form (decodeAt? nested) encode (.leaf id name kind) := by
  let head : NodeHead := ⟨id, name, .leaf kind⟩
  have distinct : (head.entries.map Prod.fst).Nodup := head.names_entries.nodup (by decide)
  rcases isForm.object head.entries with ⟨shown, shows⟩
  refine ⟨?_, by rw [encode_leaf, shows.object]; exact Json.noConfusion⟩
  have again : NodeHead.ofEntries? nested shown = some head :=
    NodeHead.ofEntries?_eq isForm own nested (shows.distinct distinct)
      fun name _ => shows.lookup distinct name
  rw [encode_leaf, shows.object, decodeAt?_eq, entriesFor?, Option.bind_some, again]
  rfl

theorem container_settles {id name : String} {kind : Container} {children : List Node}
    (own : (NodeKind.container kind).Settles form)
    (each : forall child, child ∈ children -> Settles form (decodeAt? true) encode child)
    (nested : Bool) :
    Settles form (decodeAt? nested) encode (.container id name kind children) := by
  let head : NodeHead := ⟨id, name, .container kind⟩
  let entries := head.entries ++ [("children", ofList encode children)]
  have names : (entries.map Prod.fst).Sublist (NodeHead.names ++ ["children"]) := by
    rw [List.map_append]
    exact head.names_entries.append (List.Sublist.refl _)
  have distinct : (entries.map Prod.fst).Nodup := names.nodup (by decide)
  rcases isForm.object entries with ⟨shown, shows⟩
  refine ⟨?_, by rw [encode_container, shows.object]; exact Json.noConfusion⟩
  -- The list of children stands behind the fields of the node and hides none of them.
  have childrenApart : forall name, name ∈ NodeHead.names -> name ≠ "children" := by decide
  have again : NodeHead.ofEntries? nested shown = some head := by
    apply NodeHead.ofEntries?_eq isForm own nested (shows.distinct distinct)
    intro name member
    rw [shows.lookup distinct name, List.lookup_append,
      lookup_cons_eq_ite, if_neg (childrenApart name member), List.lookup_nil, Option.or_none]
  have found : shown.lookup "children" = some (form (ofList encode children)) := by
    have behind : "children" ∉ head.entries.map Prod.fst := fun member =>
      childrenApart _ (head.names_entries.subset member) rfl
    rw [shows.lookup distinct, lookup_append_of_absent behind]
    rfl
  rw [encode_container, shows.object, decodeAt?_eq, entriesFor?, Option.bind_some, again,
    Option.bind_some, (isForm.list_settles each).defaulted?_eq [] found]
  rfl

/-- What a node is, apart from its children, settles if the node was read, and its
children were read too. -/
theorem parts_of_decodeAt? {node : Node} {nested : Bool} {json : Json}
    (decoded : decodeAt? nested (form json) = some node) :
    node.ownKind.Settles form ∧ forall child, child ∈ node.children ->
      Exists fun item => decodeAt? true (form item) = some child := by
  rw [decodeAt?_eq] at decoded
  rcases Option.bind_eq_some_iff.mp decoded with ⟨entries, given, decoded⟩
  rcases Option.bind_eq_some_iff.mp decoded with ⟨head, headRead, read⟩
  have formed := formed_of_entriesFor? isForm given
  have own := NodeHead.settles_of_ofEntries? isForm formed headRead
  rcases head with ⟨id, name, kind⟩
  cases kind with
  | leaf kind =>
      cases read
      exact ⟨own, fun _ impossible => nomatch impossible⟩
  | container kind =>
      rcases Option.map_eq_some_iff.mp read with ⟨children, listed, same⟩
      subst same
      refine ⟨own, fun child member => ?_⟩
      change child ∈ children at member
      unfold defaulted? at listed
      split at listed
      · cases listed
        cases member
      · rename_i items found
        rcases formed ("children", items) (mem_of_lookup found) with ⟨original, same⟩
        change items = form original at same
        exact isForm.exists_of_mem_list (same ▸ listed) member

/-- A node that was read is read again, at the root and below it. -/
theorem settles_of_decodeAt? {node : Node} {nested : Bool} {json : Json}
    (decoded : decodeAt? nested (form json) = some node) (again : Bool) :
    Settles form (decodeAt? again) encode node := by
  have parts := parts_of_decodeAt? isForm decoded
  cases node with
  | leaf id name kind => exact leaf_settles isForm parts.1 again
  | container id name kind children =>
      -- Each child was read from an item of the list and is smaller than its parent.
      refine container_settles isForm parts.1 (fun child member => ?_) again
      rcases parts.2 child member with ⟨item, childDecoded⟩
      exact settles_of_decodeAt? childDecoded true
termination_by node

theorem steady : Steady form decode? encode := fun _ _ decoded =>
  settles_of_decodeAt? isForm decoded false

end Node
end SceneMarkup

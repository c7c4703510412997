import SceneMarkup.Data.Drawing
import SceneMarkup.Scene.Node

namespace SceneMarkup

/-!
# Data form of scenes and files

A node is an object whose `type` field says what the other fields mean.  Fields
of other types are ignored, whatever they hold.  The fields of a layer stand
among those of its node, not in an object of their own, and so a node with a layer
cannot be given by an array.  A node without one can; its type comes first.
-/

def Layer.fieldNames : List String :=
  [ "absoluteBoundingBox", "relativeTransform", "size", "opacity", "blendMode", "fills",
    "strokes", "strokeWeight", "effects", "exportSettings" ]

/-- Read a layer from the entries among which its fields stand. -/
def Layer.ofEntries? (entries : List (String × Json)) : Option Layer := do
  let boundingBox ← Json.open? entries "absoluteBoundingBox" Rect.decode?
  let transform ← Json.open? entries "relativeTransform" Transform.decode?
  let size ← Json.open? entries "size" Vector2.decode?
  let opacity ← Json.open? entries "opacity" Json.asFloat?
  let blendMode ← Json.open? entries "blendMode" BlendMode.decode?
  let fills ← Json.defaulted? entries "fills" [] (Json.asList? Paint.decode?)
  let strokes ← Json.defaulted? entries "strokes" [] (Json.asList? Paint.decode?)
  let strokeWeight ← Json.open? entries "strokeWeight" Json.asFloat?
  let effects ← Json.defaulted? entries "effects" [] (Json.asList? Effect.decode?)
  let exportSettings ←
    Json.defaulted? entries "exportSettings" [] (Json.asList? ExportSetting.decode?)
  return ⟨boundingBox, transform, size, opacity, blendMode, fills, strokes, strokeWeight,
    effects, exportSettings⟩

/-- Read a layer that stands alone. -/
def Layer.decode? (json : Json) : Option Layer :=
  (json.fields? Layer.fieldNames).bind Layer.ofEntries?

def Layer.entries (layer : Layer) : List (String × Json) :=
  [ ("absoluteBoundingBox", .ofOption Rect.encode layer.boundingBox),
    ("relativeTransform", .ofOption Transform.encode layer.transform),
    ("size", .ofOption Vector2.encode layer.size),
    ("opacity", .ofOption .ofFloat layer.opacity),
    ("blendMode", .ofOption BlendMode.encode layer.blendMode),
    ("fills", .ofList Paint.encode layer.fills),
    ("strokes", .ofList Paint.encode layer.strokes),
    ("strokeWeight", .ofOption .ofFloat layer.strokeWeight),
    ("effects", .ofList Effect.encode layer.effects),
    ("exportSettings", .ofList ExportSetting.encode layer.exportSettings) ]

/-- Write a layer that stands alone. -/
def Layer.encode (layer : Layer) : Json :=
  .object layer.entries

/-- Read the type of a node.  A child may also give the number of its type. -/
def NodeType.decode? (nested : Bool) : Json -> Option NodeType
  | .string name => NodeType.ofName? name
  | .number (.whole number) =>
      if nested ∧ 0 <= number then NodeType.all[number.toNat]? else none
  | _ => none

def NodeType.fieldNames (type : NodeType) : List String :=
  ["type", "id", "name"] ++
    match type with
    | .document => ["children"]
    | .canvas => ["backgroundColor", "children"]
    | .group => ["children"]
    | .frame => ["clipsContent", "children"] ++ Layer.fieldNames
    | .component => ["clipsContent", "children"] ++ Layer.fieldNames
    | .placement => ["componentId", "clipsContent", "children"] ++ Layer.fieldNames
    | .rectangle => "cornerRadius" :: Layer.fieldNames
    | .text => ["characters", "style"] ++ Layer.fieldNames
    | .vector => Layer.fieldNames
    | .ellipse => Layer.fieldNames
    | .star => Layer.fieldNames
    | .regularPolygon => Layer.fieldNames
    | .line => Layer.fieldNames

/-- Whether nodes of a type have a layer. -/
def NodeType.hasLayer : NodeType -> Bool
  | .document | .canvas | .group => false
  | _ => true

/-- The names of the fields of a node that is given by an array. -/
def NodeType.namesOfItems? (nested : Bool) : List Json -> Option (List String)
  | [] => none
  | first :: rest => do
      let type ← NodeType.decode? nested first
      if type.hasLayer || type.fieldNames.length <= rest.length then none
      else some type.fieldNames

/-- What a node is, apart from its id, its name and its children. -/
inductive NodeKind where
  | container (kind : Container)
  | leaf (kind : Leaf)

/-- Read what a node of a type is. -/
def NodeKind.ofEntries? (type : NodeType) (entries : List (String × Json)) :
    Option NodeKind :=
  let clips? := Json.defaulted? entries "clipsContent" false Json.asBool?
  let shape? (outline : Shape) : Option NodeKind :=
    (Layer.ofEntries? entries).map fun layer => .leaf (.shape outline layer)
  match type with
  | .document => some (.container .document)
  | .canvas => do
      let background ← Json.open? entries "backgroundColor" Color.decode?
      return .container (.canvas background)
  | .group => some (.container .group)
  | .frame => do
      return .container (.frame (← clips?) (← Layer.ofEntries? entries))
  | .component => do
      return .container (.component (← clips?) (← Layer.ofEntries? entries))
  | .placement => do
      let componentId ← Json.required? entries "componentId" Json.asString?
      return .container (.placement componentId (← clips?) (← Layer.ofEntries? entries))
  | .rectangle => do
      let cornerRadius ← Json.open? entries "cornerRadius" Json.asFloat?
      return .leaf (.rectangle cornerRadius (← Layer.ofEntries? entries))
  | .text => do
      let characters ← Json.defaulted? entries "characters" "" Json.asString?
      let style ← Json.defaulted? entries "style" TypeStyle.blank TypeStyle.decode?
      return .leaf (.text characters style (← Layer.ofEntries? entries))
  | .vector => shape? .vector
  | .ellipse => shape? .ellipse
  | .star => shape? .star
  | .regularPolygon => shape? .regularPolygon
  | .line => shape? .line

/-- A node with everything but its children. -/
structure NodeHead where
  id : String
  name : String
  kind : NodeKind

/-- Read everything of a node but its children. -/
def NodeHead.ofEntries? (nested : Bool) (entries : List (String × Json)) :
    Option NodeHead := do
  let type ← Json.required? entries "type" (NodeType.decode? nested)
  let _ ← Json.fields? type.fieldNames (.object entries)
  let id ← Json.required? entries "id" Json.asString?
  let name ← Json.defaulted? entries "name" "" Json.asString?
  let kind ← NodeKind.ofEntries? type entries
  return ⟨id, name, kind⟩

/-- A node with its children, if these could be read; a leaf has none. -/
def NodeHead.node? (head : NodeHead) (children : Option (List Node)) : Option Node :=
  match head.kind with
  | .leaf kind => some (.leaf head.id head.name kind)
  | .container kind => children.map (.container head.id head.name kind)

namespace Node

mutual

/-- Read a node; `nested` holds for the child of another node. -/
def decodeAt? (nested : Bool) : Json -> Option Node
  | .object entries =>
      match NodeHead.ofEntries? nested entries with
      | none => none
      | some head => head.node? (childrenAmong? entries)
  | .array items =>
      match NodeType.namesOfItems? nested items with
      | none => none
      | some names =>
          match NodeHead.ofEntries? nested (names.zip items) with
          | none => none
          | some head => head.node? (childrenNamed? names items)
  | _ => none

/-- Read the children of a node from its entries; none need be given. -/
def childrenAmong? : List (String × Json) -> Option (List Node)
  | [] => some []
  | (name, value) :: rest =>
      if name = "children" then childList? value else childrenAmong? rest

/-- Read the children of a node from items that have these names. -/
def childrenNamed? : List String -> List Json -> Option (List Node)
  | name :: names, value :: rest =>
      if name = "children" then childList? value else childrenNamed? names rest
  | _, _ => some []

/-- Read a list of children. -/
def childList? : Json -> Option (List Node)
  | .array items => decodeAll? items
  | _ => none

/-- Read children one by one. -/
def decodeAll? : List Json -> Option (List Node)
  | [] => some []
  | item :: rest =>
      match decodeAt? true item with
      | none => none
      | some child =>
          match decodeAll? rest with
          | none => none
          | some children => some (child :: children)

end

/-- Read a node that is the root of its tree. -/
def decode? (json : Json) : Option Node :=
  decodeAt? false json

/-- The entries with which every node begins. -/
def headEntries (type : NodeType) (id name : String) : List (String × Json) :=
  [("type", .string type.name), ("id", .string id), ("name", .string name)]

mutual

def encode : Node -> Json
  | .container id name kind children =>
      let head := headEntries kind.type id name
      let tail : List (String × Json) := [("children", .array (encodeAll children))]
      .object
        (match kind with
        | .document => head ++ tail
        | .canvas background =>
            head ++ [("backgroundColor", .ofOption Color.encode background)] ++ tail
        | .group => head ++ tail
        | .frame clips layer => head ++ [("clipsContent", .bool clips)] ++ layer.entries ++ tail
        | .component clips layer =>
            head ++ [("clipsContent", .bool clips)] ++ layer.entries ++ tail
        | .placement componentId clips layer =>
            head ++ [("componentId", .string componentId), ("clipsContent", .bool clips)]
              ++ layer.entries ++ tail)
  | .leaf id name kind =>
      let head := headEntries kind.type id name
      .object
        (match kind with
        | .shape _ layer => head ++ layer.entries
        | .rectangle cornerRadius layer =>
            head ++ [("cornerRadius", .ofOption .ofFloat cornerRadius)] ++ layer.entries
        | .text characters style layer =>
            head ++ [("characters", .string characters), ("style", style.encode)]
              ++ layer.entries)

def encodeAll : List Node -> List Json
  | [] => []
  | node :: rest => encode node :: encodeAll rest

end

end Node

def ComponentNote.decode? (json : Json) : Option ComponentNote := do
  let entries ← json.fields? ["key", "name", "description"]
  let key ← Json.defaulted? entries "key" "" Json.asString?
  let name ← Json.defaulted? entries "name" "" Json.asString?
  let description ← Json.defaulted? entries "description" "" Json.asString?
  return ⟨key, name, description⟩

def ComponentNote.encode (note : ComponentNote) : Json :=
  .object
    [ ("key", .string note.key), ("name", .string note.name),
      ("description", .string note.description) ]

def DesignFile.decode? (json : Json) : Option DesignFile := do
  let entries ← json.fields? ["name", "document", "components"]
  let name ← Json.defaulted? entries "name" "" Json.asString?
  let document ← Json.required? entries "document" Node.decode?
  let components ←
    Json.defaulted? entries "components" OrderedMap.empty (Json.asMap? ComponentNote.decode?)
  return ⟨name, document, components⟩

def DesignFile.encode (file : DesignFile) : Json :=
  .object
    [ ("name", .string file.name), ("document", file.document.encode),
      ("components", .ofMap ComponentNote.encode file.components) ]

def ImportedFile.decode? (json : Json) : Option ImportedFile := do
  let entries ← json.fields? ["idAliases", "document"]
  let aliases ←
    Json.defaulted? entries "idAliases" OrderedMap.empty (Json.asMap? Json.asString?)
  let document ← Json.required? entries "document" Node.decode?
  return ⟨aliases, document⟩

def ImportedFile.encode (file : ImportedFile) : Json :=
  .object
    [("idAliases", .ofMap .string file.aliases), ("document", file.document.encode)]

/-- Read a map of imported files. -/
def Imports.decode? (json : Json) : Option Imports :=
  Json.asMap? ImportedFile.decode? json

/-- Write a map of imported files. -/
def Imports.encode (imports : Imports) : Json :=
  Json.ofMap ImportedFile.encode imports

end SceneMarkup

import SceneMarkup.Json.Value
import SceneMarkup.OrderedMap

namespace SceneMarkup
namespace Json

/-!
# Fields of data

Model values are read from objects field by field.  A field may be required, it
may have a default, or it may be left open, and only an open field may be
`null`.  Fields that a value does not know are ignored, but a field that it
knows must not stand twice.  An array may take the place of an object: its items
are the fields in the order in which the value knows them, and it may be cut off
where the rest may be absent.
-/

def asString? : Json -> Option String
  | .string text => some text
  | _ => none

/-- The value of a truth value. -/
def asBool? : Json -> Option Bool
  | .bool value => some value
  | _ => none

/-- The double nearest to a number. -/
def asFloat? : Json -> Option Float
  | .number (.real value) => some value
  | .number (.whole value) =>
      some (if value < 0 then -Float.ofNat value.natAbs else Float.ofNat value.natAbs)
  | _ => none

/-- A whole number that fits in 32 bits. -/
def asCount? : Json -> Option Nat
  | .number (.whole value) =>
      if 0 <= value ∧ value < 4294967296 then some value.toNat else none
  | _ => none

/-- A list whose items can all be read. -/
def asList? (decode : Json -> Option Value) : Json -> Option (List Value)
  | .array items => items.mapM decode
  | _ => none

/-- A map whose values can all be read.  A repeated name keeps its first place
and takes its last value. -/
def asMap? (decode : Json -> Option Value) : Json -> Option (OrderedMap Value)
  | .object entries =>
      (entries.mapM fun entry => (decode entry.2).map fun value => (entry.1, value)).map
        OrderedMap.ofList
  | _ => none

/-- The name of a choice: a string, or an object whose only entry has that name
and no value. -/
def asChoice? : Json -> Option String
  | .string name => some name
  | .object [(name, .null)] => some name
  | _ => none

/-- The entries of an object in which no known field stands twice, or of an array
that gives known fields by their places and has no further items. -/
def fields? (known : List String) : Json -> Option (List (String × Json))
  | .object entries =>
      if known.all fun name => (entries.filter fun entry => entry.1 == name).length <= 1 then
        some entries
      else none
  | .array items => if items.length <= known.length then some (known.zip items) else none
  | _ => none

/-- A field that must be there. -/
def required? (entries : List (String × Json)) (name : String)
    (decode : Json -> Option Value) : Option Value :=
  (entries.lookup name).bind decode

/-- A field that has a default. -/
def defaulted? (entries : List (String × Json)) (name : String) (default : Value)
    (decode : Json -> Option Value) : Option Value :=
  match entries.lookup name with
  | none => some default
  | some value => decode value

/-- A field that may be left open: by its absence or by `null`. -/
def open? (entries : List (String × Json)) (name : String)
    (decode : Json -> Option Value) : Option (Option Value) :=
  match entries.lookup name with
  | none => some none
  | some .null => some none
  | some value => (decode value).map some

/-- A double as data. -/
def ofFloat (value : Float) : Json :=
  .number (.real value)

/-- An open field as data. -/
def ofOption (encode : Value -> Json) : Option Value -> Json
  | none => .null
  | some value => encode value

def ofList (encode : Value -> Json) (values : List Value) : Json :=
  .array (values.map encode)

def ofMap (encode : Value -> Json) (map : OrderedMap Value) : Json :=
  .object (map.entries.map fun entry => (entry.1, encode entry.2))

end Json
end SceneMarkup

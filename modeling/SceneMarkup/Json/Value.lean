namespace SceneMarkup

/-!
# JSON values

Objects keep their entries as they are written: in order, and with repeated
names.  Whether order and repetition mean anything is for the reader of a value
to say, and `Json.sorted` is the reading in which they mean nothing.
-/

/-- A JSON number.  Whole numbers that fit in 64 bits are told apart from other
numbers, because some fields accept nothing else. -/
inductive JsonNumber where
  | whole (value : Int)
  | real (value : Float)
  deriving Repr, BEq, Inhabited

/-- A JSON value. -/
inductive Json where
  | null
  | bool (value : Bool)
  | number (value : JsonNumber)
  | string (text : String)
  | array (items : List Json)
  | object (entries : List (String × Json))
  deriving Repr, BEq, Inhabited

namespace Json

/-- A whole number as a value. -/
def ofNat (value : Nat) : Json :=
  .number (.whole (Int.ofNat value))

/-- Whether the value is `null`. -/
def isNull : Json -> Bool
  | .null => true
  | _ => false

/-- The value of the first entry with a name, when the value is an object. -/
def get? : Json -> String -> Option Json
  | .object entries, name => entries.lookup name
  | _, _ => none

/-- Put an entry into a sorted list of entries, replacing an equal name. -/
def insertSorted (name : String) (value : Json) :
    List (String × Json) -> List (String × Json)
  | [] => [(name, value)]
  | entry :: rest =>
      if name < entry.1 then (name, value) :: entry :: rest
      else if entry.1 = name then (name, value) :: rest
      else entry :: insertSorted name value rest

mutual

/-- Sort the entries of every object by name; of entries with one name the last
stays. -/
def sorted : Json -> Json
  | .array items => .array (sortedItems items)
  | .object entries =>
      .object ((sortedEntries entries).foldl
        (fun result entry => insertSorted entry.1 entry.2 result) [])
  | .null => .null
  | .bool value => .bool value
  | .number value => .number value
  | .string text => .string text

/-- Sort the entries inside every item. -/
def sortedItems : List Json -> List Json
  | [] => []
  | item :: rest => sorted item :: sortedItems rest

/-- Sort the entries inside every value of an object. -/
def sortedEntries : List (String × Json) -> List (String × Json)
  | [] => []
  | (name, value) :: rest => (name, sorted value) :: sortedEntries rest

end

end Json
end SceneMarkup

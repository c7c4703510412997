import SceneMarkup.Json.Value
import SceneMarkup.Number.Notation

namespace SceneMarkup

/-!
# Writing JSON

Values are written on one line without blanks, or spread over lines with two
spaces of indentation a level.  In a string only quotes, backslashes and control
characters are escaped; every other character stands for itself.
-/

/-- A number as data shows it. -/
def JsonNumber.written : JsonNumber -> String
  | .whole value => Number.wholeString value
  | .real value => Number.serialized value

namespace Json

/-- The characters that stand for one character inside a string. -/
def escapedChar (char : Char) : List Char :=
  if char = '"' then ['\\', '"']
  else if char = '\\' then ['\\', '\\']
  else if char = '\n' then ['\\', 'n']
  else if char = '\r' then ['\\', 'r']
  else if char = '\t' then ['\\', 't']
  else if char.toNat = 8 then ['\\', 'b']
  else if char.toNat = 12 then ['\\', 'f']
  else if char.toNat < 32 then
    ['\\', 'u', '0', '0'] ++ (if char.toNat < 16 then ['0'] else [])
      ++ Nat.toDigits 16 char.toNat
  else [char]

/-- A string between quotes. -/
def quoted (text : String) : String :=
  "\"" ++ String.ofList (text.toList.flatMap escapedChar) ++ "\""

mutual

/-- A value on one line. -/
def compact : Json -> String
  | .null => "null"
  | .bool true => "true"
  | .bool false => "false"
  | .number value => value.written
  | .string text => quoted text
  | .array items => "[" ++ ",".intercalate (compactItems items) ++ "]"
  | .object entries => "\x7b" ++ ",".intercalate (compactEntries entries) ++ "\x7d"

/-- The items of an array, each on one line. -/
def compactItems : List Json -> List String
  | [] => []
  | item :: rest => compact item :: compactItems rest

/-- The entries of an object, each on one line. -/
def compactEntries : List (String × Json) -> List String
  | [] => []
  | (name, value) :: rest => (quoted name ++ ":" ++ compact value) :: compactEntries rest

end

/-- The blanks that begin a line at a depth. -/
def indentation (depth : Nat) : String :=
  String.join (List.replicate depth "  ")

/-- A container spread over lines, one part to a line. -/
def spread (opening closing : String) (depth : Nat) (parts : List String) : String :=
  if parts.isEmpty then opening ++ closing
  else
    opening ++ "\n"
      ++ ",\n".intercalate (parts.map fun part => indentation (depth + 1) ++ part)
      ++ "\n" ++ indentation depth ++ closing

mutual

/-- A value spread over lines, standing at a depth. -/
def spreadAt : Nat -> Json -> String
  | depth, .array items => spread "[" "]" depth (spreadItems (depth + 1) items)
  | depth, .object entries =>
      spread "\x7b" "\x7d" depth (spreadEntries (depth + 1) entries)
  | _, .null => "null"
  | _, .bool true => "true"
  | _, .bool false => "false"
  | _, .number value => value.written
  | _, .string text => quoted text

/-- The items of an array, each spread over lines. -/
def spreadItems : Nat -> List Json -> List String
  | _, [] => []
  | depth, item :: rest => spreadAt depth item :: spreadItems depth rest

/-- The entries of an object, each spread over lines. -/
def spreadEntries : Nat -> List (String × Json) -> List String
  | _, [] => []
  | depth, (name, value) :: rest =>
      (quoted name ++ ": " ++ spreadAt depth value) :: spreadEntries depth rest

end

/-- A value spread over lines. -/
def pretty (value : Json) : String :=
  spreadAt 0 value

end Json
end SceneMarkup

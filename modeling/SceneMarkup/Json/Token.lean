import SceneMarkup.Json.Value
import SceneMarkup.Number.Notation

namespace SceneMarkup

/-!
# JSON tokens

A text is cut into tokens by a machine that looks at one character at a time.
Strings are decoded on the way.  Everything else that is not punctuation is
collected as a bare word, and only a complete bare word is judged: it is one of
the three constants, or a number, or an error.
-/

/-- A token of a JSON text. -/
inductive JsonToken where
  | openObject
  | closeObject
  | openArray
  | closeArray
  | colon
  | comma
  | scalar (value : Json)
  deriving Repr, BEq

namespace JsonNumber

/-- The value of a run of decimal digits. -/
def digitsValue (digits : List Char) : Nat :=
  digits.foldl (fun value digit => 10 * value + (digit.toNat - 48)) 0

/-- The exponent part of a number: empty, or a mark, an optional sign and at
least one digit. -/
def exponent? : List Char -> Option Int
  | [] => some 0
  | mark :: rest =>
      if mark = 'e' ∨ mark = 'E' then
        let negative := rest.head? == some '-'
        let digits := if rest.head? == some '+' || negative then rest.drop 1 else rest
        if digits.isEmpty || digits.any (! ·.isDigit) then none
        else
          let size := Int.ofNat (digitsValue digits)
          some (if negative then -size else size)
      else none

/-- A number without its sign.  No superfluous zero may lead, and digits must
stand on both sides of a point.  Without point and exponent the number is whole,
unless it needs more than 64 bits or is a negative zero. -/
def ofUnsigned? (negative : Bool) (text : List Char) : Option JsonNumber :=
  let whole := text.takeWhile Char.isDigit
  let rest := text.dropWhile Char.isDigit
  if whole.isEmpty || (whole.head? == some '0' && 1 < whole.length) then none
  else
    match rest with
    | [] =>
        let size := digitsValue whole
        let fits := if negative then 0 < size && size <= Number.twoTo 63 else size < Number.twoTo 64
        if fits then
          some (.whole (if negative then -Int.ofNat size else Int.ofNat size))
        else
          (Number.nearestFloat? negative size 0).map .real
    | '.' :: tail =>
        let places := tail.takeWhile Char.isDigit
        if places.isEmpty then none
        else
          (exponent? (tail.dropWhile Char.isDigit)).bind fun exponent =>
            (Number.nearestFloat? negative (digitsValue (whole ++ places))
              (exponent - Int.ofNat places.length)).map .real
    | tail =>
        (exponent? tail).bind fun exponent =>
          (Number.nearestFloat? negative (digitsValue whole) exponent).map .real

/-- A number, unless the text is none or its value exceeds every double. -/
def ofText? : List Char -> Option JsonNumber
  | '-' :: text => ofUnsigned? true text
  | text => ofUnsigned? false text

end JsonNumber

namespace JsonToken

/-- What a bare word stands for. -/
def ofWord? (word : List Char) : Option JsonToken :=
  if word = ['n', 'u', 'l', 'l'] then some (.scalar .null)
  else if word = ['t', 'r', 'u', 'e'] then some (.scalar (.bool true))
  else if word = ['f', 'a', 'l', 's', 'e'] then some (.scalar (.bool false))
  else (JsonNumber.ofText? word).map fun value => .scalar (.number value)

def ofPunctuation? (char : Char) : Option JsonToken :=
  if char = '\x7b' then some .openObject
  else if char = '\x7d' then some .closeObject
  else if char = '[' then some .openArray
  else if char = ']' then some .closeArray
  else if char = ':' then some .colon
  else if char = ',' then some .comma
  else none

def isBlank (char : Char) : Bool :=
  char == ' ' || char == '\n' || char == '\t' || char == '\r'

/-- Where the machine stands.  Collected characters are in reverse.  `hex` has
read part of a four-digit escape; `lead` is the first half of a pair of escapes
that stand for one character. -/
inductive Scan where
  | between
  | word (reversed : List Char)
  | text (reversed : List Char)
  | escape (reversed : List Char)
  | hex (reversed : List Char) (lead : Option Nat) (missing : Nat) (value : Nat)
  | pairMark (reversed : List Char) (lead : Nat)
  | pairEscape (reversed : List Char) (lead : Nat)

/-- The value of a hexadecimal digit. -/
def hexDigit? (char : Char) : Option Nat :=
  if char.isDigit then some (char.toNat - 48)
  else if 'a' ≤ char ∧ char ≤ 'f' then some (char.toNat - 87)
  else if 'A' ≤ char ∧ char ≤ 'F' then some (char.toNat - 55)
  else none

/-- The character that a one-letter escape stands for. -/
def escaped? (char : Char) : Option Char :=
  if char = '"' then some '"'
  else if char = '\\' then some '\\'
  else if char = '/' then some '/'
  else if char = 'b' then some (Char.ofNat 8)
  else if char = 'f' then some (Char.ofNat 12)
  else if char = 'n' then some '\n'
  else if char = 'r' then some '\r'
  else if char = 't' then some '\t'
  else none

/-- Go on after a complete four-digit escape.  A code in the lead range needs a
partner in the trailing range, and neither may stand alone. -/
def afterHex? (reversed : List Char) (lead : Option Nat) (value : Nat) : Option Scan :=
  let isLead := 0xD800 <= value && value < 0xDC00
  let isTrail := 0xDC00 <= value && value < 0xE000
  match lead with
  | none =>
      if isLead then some (.pairMark reversed value)
      else if isTrail then none
      else some (.text (Char.ofNat value :: reversed))
  | some lead =>
      if isTrail then
        some (.text
          (Char.ofNat (0x10000 + (lead - 0xD800) * 0x400 + (value - 0xDC00)) :: reversed))
      else none

/-- One character at a token boundary. -/
def startToken? (tokens : List JsonToken) (char : Char) : Option (Scan × List JsonToken) :=
  if isBlank char then some (.between, tokens)
  else if char = '"' then some (.text [], tokens)
  else
    match ofPunctuation? char with
    | some token => some (.between, token :: tokens)
    | none => some (.word [char], tokens)

/-- One step of the machine; tokens are collected in reverse. -/
def step? (state : Scan × List JsonToken) (char : Char) : Option (Scan × List JsonToken) :=
  let tokens := state.2
  match state.1 with
  | .between => startToken? tokens char
  | .word reversed =>
      if isBlank char || char == '"' || (ofPunctuation? char).isSome then
        (ofWord? reversed.reverse).bind fun token => startToken? (token :: tokens) char
      else some (.word (char :: reversed), tokens)
  | .text reversed =>
      if char = '"' then
        some (.between, .scalar (.string (String.ofList reversed.reverse)) :: tokens)
      else if char = '\\' then some (.escape reversed, tokens)
      else if char.toNat < 32 then none
      else some (.text (char :: reversed), tokens)
  | .escape reversed =>
      if char = 'u' then some (.hex reversed none 4 0, tokens)
      else (escaped? char).map fun plain => (.text (plain :: reversed), tokens)
  | .hex reversed lead missing value =>
      (hexDigit? char).bind fun digit =>
        let value := 16 * value + digit
        if missing <= 1 then (afterHex? reversed lead value).map fun scan => (scan, tokens)
        else some (.hex reversed lead (missing - 1) value, tokens)
  | .pairMark reversed lead =>
      if char = '\\' then some (.pairEscape reversed lead, tokens) else none
  | .pairEscape reversed lead =>
      if char = 'u' then some (.hex reversed (some lead) 4 0, tokens) else none

/-- Cut a text into tokens, unless it holds something that is no token. -/
def scan? (text : List Char) : Option (List JsonToken) :=
  (text.foldlM step? (Scan.between, [])).bind fun state =>
    match state.1 with
    | .between => some state.2.reverse
    | .word reversed =>
        (ofWord? reversed.reverse).map fun token => (token :: state.2).reverse
    | _ => none

end JsonToken
end SceneMarkup

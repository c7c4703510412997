import SceneMarkup.Number.Shortest

namespace SceneMarkup
namespace Number

/-!
# Written numbers

Three written forms are in use.  Markup and stylesheets write a number
positionally whatever its size.  Serialized data writes a fraction digit even
for a whole number and changes to an exponent outside a middle range.  Letter
spacing is written with three places.  The decisions of each form stand here,
beside each other; the digits themselves come from `shortest`.
-/

/-- The decimal digits of a whole number, most significant first. -/
def digitString (value : Nat) : String :=
  String.ofList (Nat.toDigits 10 value)

/-- A whole number with a minus sign where it is negative. -/
def wholeString (value : Int) : String :=
  (if value < 0 then "-" else "") ++ digitString value.natAbs

/-- A run of zeros. -/
def zeros (count : Nat) : String :=
  String.ofList (List.replicate count '0')

/-- Write a decimal positionally, without a point when it is whole. -/
def positional (decimal : Decimal) : String :=
  let digits := Nat.toDigits 10 decimal.digits
  if 0 <= decimal.exponent then
    String.ofList digits ++ zeros decimal.exponent.toNat
  else
    let places := (-decimal.exponent).toNat
    if places < digits.length then
      let whole := digits.length - places
      String.ofList (digits.take whole) ++ "." ++ String.ofList (digits.drop whole)
    else
      "0." ++ zeros (places - digits.length) ++ String.ofList digits

def sign (negative : Bool) : String :=
  if negative then "-" else ""

/-- A double as markup shows it: the shortest digits, never an exponent, no
point after a whole number, and a minus sign also before zero. -/
def plain (value : Float) : String :=
  match Binary64.ofFloat value with
  | .undefined => "NaN"
  | .infinite negative => sign negative ++ "inf"
  | .finite negative mantissa exponent =>
      sign negative ++ positional (shortest mantissa exponent .upward)

/-- A double as a style value: as `plain` writes it, but zero has no sign. -/
def unsignedZero (value : Float) : String :=
  if value == 0.0 then "0" else plain value

/-- Write one digit, a point and the remaining digits, then the exponent with
its sign.  A single digit has no point. -/
def scientific (decimal : Decimal) : String :=
  let digits := Nat.toDigits 10 decimal.digits
  let exponent := decimal.exponent + Int.ofNat digits.length - 1
  let fraction := digits.drop 1
  String.ofList (digits.take 1)
    ++ (if fraction.isEmpty then "" else "." ++ String.ofList fraction)
    ++ "e" ++ (if 0 <= exponent then "+" else "-") ++ digitString exponent.natAbs

/-- A double as serialized data shows it.  The middle range, from `0.00001` up
to but not including ten to the sixteenth, is written positionally with at
least one fraction digit; other values carry an exponent.  Data has no spelling
for a value that is not finite, so such a value is written as `null`. -/
def serialized (value : Float) : String :=
  match Binary64.ofFloat value with
  | .undefined => "null"
  | .infinite _ => "null"
  | .finite negative mantissa exponent =>
      if mantissa = 0 then sign negative ++ "0.0"
      else
        let decimal := shortest mantissa exponent .toEven
        let leading := decimal.exponent + Int.ofNat (Nat.toDigits 10 decimal.digits).length - 1
        if -5 <= leading ∧ leading < 16 then
          sign negative ++ positional decimal ++ (if 0 <= decimal.exponent then ".0" else "")
        else
          sign negative ++ scientific decimal

/-- Divide and round to the nearest whole number, a half going to the even
neighbour. -/
def divideHalfEven (numerator denominator : Nat) : Nat :=
  let quotient := numerator / denominator
  let rest := 2 * (numerator % denominator)
  if rest < denominator then quotient
  else if denominator < rest then quotient + 1
  else if quotient % 2 = 0 then quotient
  else quotient + 1

/-- A double with exactly three places: its exact value rounded to the nearest
thousandth, a half going to the even one.  The minus sign stays also where
nothing but zeros is left. -/
def thousandths (value : Float) : String :=
  match Binary64.ofFloat value with
  | .undefined => "NaN"
  | .infinite negative => sign negative ++ "inf"
  | .finite negative mantissa exponent =>
      let count :=
        divideHalfEven (mantissa * 1000 * twoTo exponent.toNat) (twoTo (-exponent).toNat)
      let places := digitString (count % 1000)
      sign negative ++ digitString (count / 1000) ++ "."
        ++ zeros (3 - places.length) ++ places

/-- The nearest double to `digits * 10 ^ exponent`, or `none` when the value is
too large for one.  Values far outside the range of doubles are settled by their
magnitude alone, so a long exponent costs nothing. -/
def nearestFloat? (negative : Bool) (digits : Nat) (exponent : Int) : Option Float :=
  let signed (value : Float) : Float := if negative then -value else value
  if digits = 0 then some (signed 0.0)
  else
    let magnitude := exponent + Int.ofNat (Nat.toDigits 10 digits).length
    if 400 < magnitude then none
    else if magnitude < -400 then some (signed 0.0)
    else
      let value :=
        if 0 <= exponent then Float.ofScientific digits false exponent.toNat
        else Float.ofScientific digits true (-exponent).toNat
      if value == 1.0 / 0.0 then none else some (signed value)

end Number
end SceneMarkup

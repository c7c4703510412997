namespace SceneMarkup
namespace Number

/-!
# The exact value of a double

A double is read here as an exact binary fraction `mantissa * 2 ^ exponent`, so
that every later rounding and every printed digit is decided in whole-number
arithmetic.  Nothing in this module rounds silently: `floor` and
`roundHalfAway` say which whole number they choose, and `wholeSaturated` says
what happens outside the signed 64-bit range.
-/

/-- A double taken apart.  A finite value is `mantissa * 2 ^ exponent`, negated
when `negative` holds; zero keeps its sign. -/
inductive Binary64 where
  | undefined
  | infinite (negative : Bool)
  | finite (negative : Bool) (mantissa : Nat) (exponent : Int)
  deriving Repr, BEq, DecidableEq, Inhabited

/-- A power of two. -/
def twoTo (exponent : Nat) : Nat :=
  Nat.pow 2 exponent

/-- A power of ten. -/
def tenTo (exponent : Nat) : Nat :=
  Nat.pow 10 exponent

namespace Binary64

/-- Read sign, exponent field and fraction off the bit pattern.  An exponent
field of zero marks a subnormal value, which has no hidden leading bit. -/
def ofFloat (value : Float) : Binary64 :=
  let bits := value.toBits.toNat
  let negative := bits / twoTo 63 == 1
  let field := bits / twoTo 52 % twoTo 11
  let fraction := bits % twoTo 52
  if field = 2047 then
    if fraction = 0 then .infinite negative else .undefined
  else if field = 0 then
    .finite negative fraction (-1074)
  else
    .finite negative (fraction + twoTo 52) (Int.ofNat field - 1075)

/-- The largest whole number below `mantissa * 2 ^ exponent`, sign included. -/
def floorWhole (negative : Bool) (mantissa : Nat) (exponent : Int) : Int :=
  let signed : Int := if negative then -Int.ofNat mantissa else Int.ofNat mantissa
  if 0 <= exponent then
    signed * Int.ofNat (twoTo exponent.toNat)
  else
    Int.fdiv signed (Int.ofNat (twoTo (-exponent).toNat))

/-- The whole number nearest to `mantissa * 2 ^ exponent`, a half going up. -/
def nearestWhole (mantissa : Nat) (exponent : Int) : Nat :=
  if 0 <= exponent then
    mantissa * twoTo exponent.toNat
  else
    let unit := twoTo (-exponent).toNat
    (2 * mantissa + unit) / (2 * unit)

end Binary64

/-- The least whole number that fits in 64 signed bits. -/
def leastWhole : Int := -Int.ofNat (twoTo 63)

/-- The greatest whole number that fits in 64 signed bits. -/
def greatestWhole : Int := Int.ofNat (twoTo 63) - 1

/-- Bring a whole number into the signed 64-bit range, stopping at its ends. -/
def saturate (value : Int) : Int :=
  if value < leastWhole then leastWhole
  else if greatestWhole < value then greatestWhole
  else value

/-- Round down to a whole number of 64 bits.  Values beyond the range stop at
its ends and an undefined value counts as zero. -/
def floorSaturated (value : Float) : Int :=
  match Binary64.ofFloat value with
  | .undefined => 0
  | .infinite negative => if negative then leastWhole else greatestWhole
  | .finite negative mantissa exponent =>
      saturate (Binary64.floorWhole negative mantissa exponent)

/-- Round to a whole number, a half going up: the sum is formed in doubles and
then rounded down. -/
def roundHalfUp (value : Float) : Int :=
  floorSaturated (value + 0.5)

/-- Round to a whole double, a half going away from zero.  A value whose
exponent is not negative is whole already, and the sign of zero is kept. -/
def roundHalfAway (value : Float) : Float :=
  match Binary64.ofFloat value with
  | .finite negative mantissa exponent =>
      if 0 <= exponent then value
      else
        let magnitude := Float.ofNat (Binary64.nearestWhole mantissa exponent)
        if negative then -magnitude else magnitude
  | _ => value

/-- Round to a number of decimal places, a half going away from zero.  Scaling
and unscaling happen in doubles. -/
def roundTo (value : Float) (places : Nat) : Float :=
  let factor := Float.ofNat (tenTo places)
  roundHalfAway (value * factor) / factor

end Number
end SceneMarkup

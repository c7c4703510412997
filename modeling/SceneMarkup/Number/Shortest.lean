import SceneMarkup.Number.Binary64

namespace SceneMarkup
namespace Number

/-!
# Shortest digits

The text of a number shows the fewest decimal digits that read back as the same
double.  For each count of digits, from one upwards, the two neighbours of the
value on that decimal grid are compared, exactly, with the interval of reals
that round to the double.  The first grid with a hit wins; of two hits on it the
nearer is taken, and an exact tie is left to the format.
-/

/-- A positive decimal `digits * 10 ^ exponent`. -/
structure Decimal where
  digits : Nat
  exponent : Int
  deriving Repr, BEq, DecidableEq, Inhabited

/-- Which of two equally near candidates a format prefers. -/
inductive Tie where
  | upward
  | toEven
  deriving Repr, BEq, DecidableEq

namespace Decimal

/-- Drop trailing zeros, at most `fuel` of them, into the exponent. -/
def dropZeros : Nat -> Decimal -> Decimal
  | 0, decimal => decimal
  | fuel + 1, decimal =>
      if decimal.digits ≠ 0 ∧ decimal.digits % 10 = 0 then
        dropZeros fuel ⟨decimal.digits / 10, decimal.exponent + 1⟩
      else decimal

end Decimal

/-- The reals that round to one double, over a common denominator: the value
itself is `value / unit`, and the interval runs from `low / unit` to
`high / unit`, its ends included exactly when `closed` holds. -/
structure RoundingInterval where
  low : Nat
  value : Nat
  high : Nat
  unit : Nat
  closed : Bool

namespace RoundingInterval

/-- The interval around `mantissa * 2 ^ exponent`.  Below a power of two the
neighbouring double is only half as far away, except at the smallest normal
exponent.  A half-way point rounds to the even mantissa, so the ends belong to
an even one. -/
def around (mantissa : Nat) (exponent : Int) : RoundingInterval :=
  let shorter := mantissa = twoTo 52 ∧ exponent ≠ -1074
  let scale := twoTo (exponent - 2).toNat
  { low := (4 * mantissa - if shorter then 1 else 2) * scale
    value := 4 * mantissa * scale
    high := (4 * mantissa + 2) * scale
    unit := twoTo (2 - exponent).toNat
    closed := mantissa % 2 = 0 }

def inUnits (interval : RoundingInterval) (exponent : Int) : RoundingInterval :=
  let finer := tenTo (-exponent).toNat
  { low := interval.low * finer
    value := interval.value * finer
    high := interval.high * finer
    unit := interval.unit * tenTo exponent.toNat
    closed := interval.closed }

/-- Whether a whole number of units lies in the interval. -/
def holds (interval : RoundingInterval) (count : Nat) : Bool :=
  let point := count * interval.unit
  if interval.closed then
    interval.low <= point && point <= interval.high
  else
    interval.low < point && point < interval.high

/-- The whole number of units that lies in the interval and is nearest to the
value, if one of the two neighbours of the value does. -/
def nearest? (interval : RoundingInterval) (tie : Tie) : Option Nat :=
  let below := interval.value / interval.unit
  let above := below + 1
  let downward := interval.value - below * interval.unit
  let upward := above * interval.unit - interval.value
  match interval.holds below, interval.holds above with
  | true, true =>
      if downward < upward then some below
      else if upward < downward then some above
      else
        match tie with
        | .upward => some above
        | .toEven => some (if below % 2 = 0 then below else above)
  | true, false => some below
  | false, true => some above
  | false, false => none

end RoundingInterval

/-- The number of decimal places before the point of `value / unit`: the `k`
with `10 ^ (k - 1) <= value / unit < 10 ^ k`.  The binary length of the value
fixes it up to one, and one comparison settles the rest. -/
def decimalMagnitude (mantissa : Nat) (exponent : Int) : Int :=
  let bits : Int := Int.ofNat mantissa.log2 + exponent
  let estimate := Int.fdiv (bits * 30103) 100000 + 1
  let atLeast (power : Int) : Bool :=
    tenTo power.toNat * twoTo (-exponent).toNat
      <= mantissa * twoTo exponent.toNat * tenTo (-power).toNat
  if atLeast estimate then estimate + 1
  else if atLeast (estimate - 1) then estimate
  else estimate - 1

/-- Try grids of `count`, `count + 1`, … digits, at most `fuel` of them. -/
def shortestFrom (interval : RoundingInterval) (magnitude : Int) (tie : Tie) :
    Nat -> Nat -> Option Decimal
  | 0, _ => none
  | fuel + 1, count =>
      let exponent := magnitude - Int.ofNat count
      match (interval.inUnits exponent).nearest? tie with
      | some digits => some (Decimal.dropZeros 20 ⟨digits, exponent⟩)
      | none => shortestFrom interval magnitude tie fuel (count + 1)

/-- The fewest digits that read back as `mantissa * 2 ^ exponent`.  Seventeen
digits always suffice. -/
def shortest (mantissa : Nat) (exponent : Int) (tie : Tie) : Decimal :=
  if mantissa = 0 then ⟨0, 0⟩
  else
    let interval := RoundingInterval.around mantissa exponent
    let magnitude := decimalMagnitude mantissa exponent
    (shortestFrom interval magnitude tie 17 1).getD ⟨0, 0⟩

end Number
end SceneMarkup

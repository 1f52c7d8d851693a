import Crosswalk.Decimal.Binary64

/-!
# Shortest decimals

The decimal that stands for a double is the one with the fewest digits among those that round to it,
and of these the nearest. With a given number of digits only the two neighbours of the double on the
decimal grid can be it. Both are tested in exact arithmetic.
-/

namespace Crosswalk.Binary64

/-- A decimal `digits · 10 ^ exponent`. -/
structure Decimal where
  digits : Nat
  exponent : Int

/-- A positive double as a quotient, with the distances to the ends of the interval that rounds to it;
the three share one denominator. -/
structure Interval where
  value : Nat
  below : Nat
  above : Nat
  unit : Nat
  closed : Bool

/-- The interval that rounds to `significand · 2 ^ exponent`: half a step to each side, a quarter step
below a power of two, the ends included when the significand is even. -/
def interval (significand : Nat) (exponent : Int) : Interval :=
  let step := pow2 exponent.toNat
  { value := 4 * significand * step
    below := if significand = pow2 52 ∧ exponent > minExponent then step else 2 * step
    above := 2 * step
    unit := 4 * pow2 (-exponent).toNat
    closed := significand % 2 = 0 }

/-- The distance from the double to the decimal if the decimal rounds to it, in units that depend on
the interval and the exponent only. -/
def Interval.distance? (i : Interval) (d : Decimal) : Option Nat :=
  let scale := pow10 (-d.exponent).toNat
  let point := d.digits * pow10 d.exponent.toNat * i.unit
  let value := i.value * scale
  let (gap, reach) := if point < value then (value - point, i.below * scale) else (point - value, i.above * scale)
  if gap < reach || (gap = reach && i.closed) then some gap else none

/-- The neighbour on the grid of `10 ^ exponent` that rounds to the double, the nearer one of two. -/
def Interval.onGrid (i : Interval) (exponent : Int) : Option Decimal :=
  let low := i.value * pow10 (-exponent).toNat / (i.unit * pow10 exponent.toNat)
  let below : Decimal := ⟨low, exponent⟩
  let above : Decimal := ⟨low + 1, exponent⟩
  match i.distance? below, i.distance? above with
  | some a, some b => some (if a < b || (a = b && low % 2 = 0) then below else above)
  | some _, none => some below
  | none, some _ => some above
  | none, none => none

/-- The exponent `k` with `10 ^ k ≤ num / den < 10 ^ (k + 1)`. -/
def decimalExponent (num den : Nat) : Int :=
  if num ≥ den then ((toString (num / den)).length : Int) - 1
  else
    let k : Int := -((toString ((den + num - 1) / num)).length : Int)
    if num * pow10 (-k).toNat ≥ den * 10 then k + 1
    else if num * pow10 (-k).toNat ≥ den then k
    else k - 1

/-- The first grid with a hit, from the coarsest to the finest of those left to try. -/
def firstOnGrid (i : Interval) (exponent : Int) : Nat → Decimal
  | 0 => ⟨0, 0⟩
  | tries + 1 => (i.onGrid exponent).getD (firstOnGrid i (exponent - 1) tries)

/-- The decimal that stands for a positive double. Seventeen digits always suffice. -/
def shortest (significand : Nat) (exponent : Int) : Decimal :=
  let i := interval significand exponent
  firstOnGrid i (decimalExponent i.value i.unit) 17

end Crosswalk.Binary64

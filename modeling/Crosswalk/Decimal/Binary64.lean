/-!
# Double precision numbers

The numbers that a decimal numeral denotes: non-negative doubles, each a significand times a power of
two, or infinity. `ofDecimal` rounds a decimal to the nearest double, a tie to the even significand.
-/

namespace Crosswalk

/-- A power of two. -/
def pow2 (n : Nat) : Nat := Nat.pow 2 n

/-- A power of ten. -/
def pow10 (n : Nat) : Nat := Nat.pow 10 n

/-- A non-negative double: `significand · 2 ^ exponent`, or infinity. -/
inductive Binary64
  | finite (significand : Nat) (exponent : Int)
  | infinite
  deriving DecidableEq

namespace Binary64

/-- The least exponent, that of the subnormal numbers. -/
def minExponent : Int := -1074

/-- The exponent of the largest finite numbers. -/
def maxExponent : Int := 971

/-- Zero. -/
def zero : Binary64 := .finite 0 minExponent

/-- The quotient to the nearest number, a tie to the even one. -/
def divNearest (num den : Nat) : Nat :=
  let q := num / den
  let twice := 2 * (num % den)
  if twice > den || (twice = den && q % 2 = 1) then q + 1 else q

/-- The quotient `num / den` divided by `2 ^ exponent`, to the nearest number. -/
def scaledNearest (num den : Nat) (exponent : Int) : Nat :=
  divNearest (num * pow2 (-exponent).toNat) (den * pow2 exponent.toNat)

/-- The double nearest to a positive quotient. -/
def ofQuotient (num den : Nat) : Binary64 :=
  let estimate : Int := (num.log2 : Int) - (den.log2 : Int) - 53
  let exponent := max minExponent estimate
  let exponent :=
    if num * pow2 (-exponent).toNat ≥ den * pow2 exponent.toNat * pow2 53 then exponent + 1 else exponent
  let significand := scaledNearest num den exponent
  let (significand, exponent) :=
    if significand = pow2 53 then (pow2 52, exponent + 1) else (significand, exponent)
  if exponent > maxExponent then .infinite else .finite significand exponent

/-- The number of decimal digits of a number; none for zero. -/
def digitCount (n : Nat) : Nat := if n = 0 then 0 else (toString n).length

/-- The double nearest to `digits · 10 ^ exponent`. Far outside the range of doubles the answer is known
without computing the power. -/
def ofDecimal (digits : Nat) (exponent : Int) : Binary64 :=
  let magnitude := (digitCount digits : Int) + exponent
  if digits = 0 || magnitude < -400 then zero
  else if magnitude > 400 then .infinite
  else ofQuotient (digits * pow10 exponent.toNat) (pow10 (-exponent).toNat)

end Binary64

end Crosswalk

import Crosswalk.Decimal.Shortest

/-!
# The written form of numbers

A double is written with its shortest decimal. From `1e-04` up to below `1e16` the point stands in
place; outside an exponent of at least two digits follows. An overflowing literal stands for infinity.
-/

namespace Crosswalk.Binary64

/-- Drops the trailing zeros of a row of digits. -/
def stripZeros (digits : List Char) : List Char := (digits.reverse.dropWhile (· = '0')).reverse

/-- The exponent part of a number. -/
def exponentText (exponent : Int) : String :=
  let digits := toString exponent.natAbs
  (if exponent < 0 then "e-" else "e+") ++ (if digits.length < 2 then "0" ++ digits else digits)

/-- Digits with the point after the first `point` of them, and `fraction` where none follow it. -/
def layout (digits : List Char) (point : Int) (fraction : String) : String :=
  if -4 < point ∧ point ≤ 16 then
    if point ≤ 0 then
      "0." ++ String.ofList (List.replicate (-point).toNat '0' ++ digits)
    else if digits.length ≤ point.toNat then
      String.ofList (digits ++ List.replicate (point.toNat - digits.length) '0') ++ fraction
    else String.ofList (digits.take point.toNat) ++ "." ++ String.ofList (digits.drop point.toNat)
  else
    let rest := digits.drop 1
    String.ofList (digits.take 1) ++ (if rest.isEmpty then "" else "." ++ String.ofList rest) ++
      exponentText (point - 1)

/-- The text of a double, with `fraction` after a whole number written in place. -/
def text (fraction : String) : Binary64 → String
  | .infinite => "1e309"
  | .finite significand exponent =>
    if significand = 0 then "0" ++ fraction
    else
      let d := shortest significand exponent
      let digits := (toString d.digits).toList
      layout (stripZeros digits) (d.exponent + digits.length) fraction

end Crosswalk.Binary64

import Crosswalk.Text.Basic

/-!
# Tables of code point ranges

The character classes of this library are sets of code points, written as ranges of hexadecimal numbers
such as `AA B2-B3`. Tables list code points above the ASCII range only: for ASCII each class has a rule
of its own, so that its members can be computed without a table.
-/

namespace Crosswalk.Text

/-- A list of inclusive ranges. -/
abbrev Ranges := List (Nat × Nat)

namespace Ranges

/-- The value of a hexadecimal digit; anything else counts as zero. -/
def hexValue (c : Char) : Nat :=
  if '0' ≤ c ∧ c ≤ '9' then c.toNat - 48
  else if 'A' ≤ c ∧ c ≤ 'F' then c.toNat - 55
  else if 'a' ≤ c ∧ c ≤ 'f' then c.toNat - 87
  else 0

/-- The value of a row of hexadecimal digits. -/
def hexNumber (cs : List Char) : Nat := cs.foldl (fun n c => 16 * n + hexValue c) 0

/-- Reads `AA` or `B2-B3`. -/
def readRange (cs : List Char) : Nat × Nat :=
  let low := cs.takeWhile (· ≠ '-')
  match cs.drop (low.length + 1) with
  | [] => (hexNumber low, hexNumber low)
  | high => (hexNumber low, hexNumber high)

/-- Splits at the characters that separate, and drops the empty words. -/
def split (separates : Char → Bool) (cs : List Char) : List (List Char) :=
  let words := cs.foldr (fun c (words : List (List Char)) =>
    if separates c then [] :: words
    else match words with
      | [] => [[c]]
      | word :: rest => (c :: word) :: rest) [[]]
  words.filter fun word => !word.isEmpty

/-- The words of a table: what stands between blanks and line breaks. -/
def words (table : String) : List (List Char) := split (fun c => c = ' ' || c = '\n') table.toList

/-- Reads a table of ranges. -/
def read (table : String) : Ranges := (words table).map readRange

/-- Membership of a number in a list of ranges. -/
def contains (ranges : Ranges) (n : Nat) : Bool := ranges.any fun r => r.1 ≤ n && n ≤ r.2

end Ranges

end Crosswalk.Text

import Crosswalk.Print.Expr
import Crosswalk.Text.Ranges

/-!
# Numerals

Numbers are whole numbers in four bases, decimals with a fraction or an exponent, and imaginary ones.
A single low line may stand between digits. A letter may not follow a number at once, unless it begins
one of the words that join expressions.
-/

namespace Crosswalk.Numeral

/-- A decimal digit. -/
def isDigit (c : Char) : Bool := '0' ≤ c && c ≤ '9'

/-- A hexadecimal digit. -/
def isHexDigit (c : Char) : Bool :=
  isDigit c || ('a' ≤ c && c ≤ 'f') || ('A' ≤ c && c ≤ 'F')

/-- A character that may stand in a word, or could be meant to. -/
def isWordPart (c : Char) : Bool :=
  isDigit c || ('a' ≤ c && c ≤ 'z') || ('A' ≤ c && c ≤ 'Z') || c = '_' || '\x80' ≤ c

/-- Reads digits, each low line among them followed by a digit. -/
def digits? (isDigit : Char → Bool) : List Char → Option (List Char × List Char)
  | [] => some ([], [])
  | c :: cs =>
    if isDigit c then (digits? isDigit cs).map fun r => (c :: r.1, r.2)
    else if c = '_' then
      match cs with
      | d :: _ => if isDigit d then digits? isDigit cs else none
      | [] => none
    else some ([], c :: cs)

/-- The words that may follow a number at once. -/
def joiningWords : List (List Char) :=
  ["and", "else", "for", "if", "in", "is", "not", "or"].map String.toList

/-- Whether a number may end before these characters. -/
def endsBefore (cs : List Char) : Bool :=
  match cs with
  | [] => true
  | c :: _ => joiningWords.any (·.isPrefixOf cs) || !isWordPart c

/-- A number and what follows it. -/
abbrev Reading := Option (Option Constant × List Char)

/-- The value of decimal digits. -/
def decimal (digits : List Char) : Nat := digits.foldl (fun n c => 10 * n + (c.toNat - 48)) 0

/-- Ends a number, if it may end here. -/
def finish (value : Option Constant) (cs : List Char) : Reading :=
  if endsBefore cs then some (value, cs) else none

/-- A number in a base of two, eight or sixteen. -/
def based (base : Nat) (isDigit : Char → Bool) (cs : List Char) : Reading :=
  match digits? isDigit cs with
  | some (ds@(_ :: _), rest) =>
    finish (some (.int (ds.foldl (fun n c => base * n + Text.Ranges.hexValue c) 0))) rest
  | _ => none

/-- Ends a decimal with a fraction or exponent, perhaps imaginary. -/
def finishDecimal (digits : List Char) (exponent : Int) (cs : List Char) : Reading :=
  let value := Binary64.ofDecimal (decimal digits) exponent
  match cs with
  | 'j' :: rest | 'J' :: rest => finish (some (.imaginary value)) rest
  | _ => finish (some (.float value)) cs

/-- Ends a number that so far is whole. Leading zeros are for zero only. -/
def finishWhole (digits : List Char) (cs : List Char) : Reading :=
  match cs with
  | 'j' :: rest | 'J' :: rest =>
    finish (some (.imaginary (Binary64.ofDecimal (decimal digits) 0))) rest
  | _ =>
    let value := decimal digits
    if digits.head? = some '0' && value ≠ 0 then none
    else finish (if digits.length > maxDigits && value ≠ 0 then none else some (.int value)) cs

/-- Reads the digits of an exponent. -/
def exponentDigits (sign : Int) (cs : List Char) : Option (Int × List Char) :=
  match cs with
  | c :: _ => if isDigit c then (digits? isDigit cs).map fun r => (sign * decimal r.1, r.2) else none
  | [] => none

/-- Goes on after the whole part and, if there was a point, the fraction. -/
def exponent (whole fraction : List Char) (hasPoint : Bool) (cs : List Char) : Reading :=
  let stop (cs : List Char) : Reading :=
    if hasPoint then finishDecimal (whole ++ fraction) (-(fraction.length : Int)) cs
    else finishWhole whole cs
  let scaled (e : Option (Int × List Char)) : Reading :=
    e.bind fun e => finishDecimal (whole ++ fraction) (e.1 - fraction.length) e.2
  match cs with
  | e :: rest =>
    if e = 'e' || e = 'E' then
      match rest with
      | '+' :: more => scaled (exponentDigits 1 more)
      | '-' :: more => scaled (exponentDigits (-1) more)
      | d :: _ => if isDigit d then scaled (exponentDigits 1 rest) else stop cs
      | [] => stop cs
    else stop cs
  | [] => stop cs

/-- Goes on after the point. -/
def fraction (whole : List Char) (cs : List Char) : Reading :=
  match cs with
  | c :: _ =>
    if isDigit c then (digits? isDigit cs).bind fun r => exponent whole r.1 true r.2
    else exponent whole [] true cs
  | [] => exponent whole [] true cs

/-- Reads a number at the begin of the characters, which is a digit, or a point before a digit. -/
def read (cs : List Char) : Reading :=
  match cs with
  | '0' :: 'x' :: rest | '0' :: 'X' :: rest => based 16 isHexDigit rest
  | '0' :: 'o' :: rest | '0' :: 'O' :: rest => based 8 (fun c => '0' ≤ c && c ≤ '7') rest
  | '0' :: 'b' :: rest | '0' :: 'B' :: rest => based 2 (fun c => c = '0' || c = '1') rest
  | '.' :: rest => fraction [] rest
  | _ =>
    match digits? isDigit cs with
    | some (whole, '.' :: rest) => fraction whole rest
    | some (whole, rest) => exponent whole [] false rest
    | none => none

end Crosswalk.Numeral

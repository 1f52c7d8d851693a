import Crosswalk.Text.Printable

/-!
# Quoted text

The written form of a string value: single quotes, unless the text holds a single quote and no double
one; a backslash before the quote and the backslash; the short escapes for tab, newline and return; and
a hexadecimal escape of two, four or eight digits for what does not print. Byte strings are written
alike, with two digits for every byte that is not printable ASCII.
-/

namespace Crosswalk

/-- A lower case hexadecimal digit. -/
def hexDigit (n : Nat) : Char := Char.ofNat (if n < 10 then 48 + n else 87 + n)

/-- The last `width` hexadecimal digits of a number. -/
def hexDigits : Nat → Nat → List Char
  | 0, _ => []
  | width + 1, n => hexDigits width (n / 16) ++ [hexDigit (n % 16)]

@[simp] theorem length_hexDigits (width n : Nat) : (hexDigits width n).length = width := by
  induction width generalizing n with
  | zero => rfl
  | succ w ih => simp [hexDigits, ih]

/-- The escape of a code point: the short one if it has one, else the shortest hexadecimal one. -/
def CodePoint.escape (c : CodePoint) : List Char :=
  if c.val = 9 then ['\\', 't']
  else if c.val = 10 then ['\\', 'n']
  else if c.val = 13 then ['\\', 'r']
  else if c.val = 92 then ['\\', '\\']
  else if c.val < 0x100 then '\\' :: 'x' :: hexDigits 2 c.val
  else if c.val < 0x10000 then '\\' :: 'u' :: hexDigits 4 c.val
  else '\\' :: 'U' :: hexDigits 8 c.val

namespace Text

/-- One character inside quotes. -/
def quotedChar (quote : Char) (c : CodePoint) : List Char :=
  if c = .ofChar quote then ['\\', quote]
  else if c.val = 92 || !c.isPrintable then c.escape
  else [c.toChar]

/-- The quote that a text is written in. -/
def quoteFor (t : Text) : Char :=
  if t.contains (.ofChar '\'') && !t.contains (.ofChar '"') then '"' else '\''

/-- What stands between the quotes. -/
def quotedBody (quote : Char) (t : Text) : List Char := t.flatMap (quotedChar quote)

/-- The written form of a string value. -/
def quoted (t : Text) : String :=
  String.ofList (quoteFor t :: (quotedBody (quoteFor t) t ++ [quoteFor t]))

/-- The written form of a string without surrogates. -/
def quotedString (s : String) : String := quoted (ofString s)

end Text

/-- One byte inside quotes. -/
def quotedByte (quote : Char) (b : UInt8) : List Char :=
  if b.toNat = quote.toNat then ['\\', quote]
  else if b = 92 then ['\\', '\\']
  else if b = 9 then ['\\', 't']
  else if b = 10 then ['\\', 'n']
  else if b = 13 then ['\\', 'r']
  else if b < 32 || 127 ≤ b then '\\' :: 'x' :: hexDigits 2 b.toNat
  else [Char.ofNat b.toNat]

/-- The written form of a byte string. -/
def quotedBytes (bytes : List UInt8) : String :=
  let quote := if bytes.contains 39 && !bytes.contains 34 then '"' else '\''
  String.ofList ('b' :: quote :: (bytes.flatMap (quotedByte quote) ++ [quote]))

end Crosswalk

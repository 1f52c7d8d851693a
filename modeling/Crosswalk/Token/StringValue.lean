import Crosswalk.Text.CharacterName
import Crosswalk.Text.Ranges
import Crosswalk.Token.Numeral

/-!
# The values of string literals

`Escape.decode` replaces the escapes between the quotes of a string by what they stand for. It reads one
character at a time and keeps in its state how far into an escape it is. An escape that the language does
not know stands for itself.
-/

namespace Crosswalk.Escape

/-- How far into an escape the reader is. -/
inductive State
  | outside
  /-- After a backslash. -/
  | opened
  /-- Among octal digits: how many more may follow, and their value so far. -/
  | octal (left value : Nat)
  /-- Among hexadecimal digits: how many more must follow, and their value so far. -/
  | hex (left value : Nat)
  /-- Before the brace of a named character. -/
  | naming
  /-- In the name of a character, which is kept last letter first. -/
  | named (letters : List Char)

/-- A code point, if the number is one. -/
def codePoint? (n : Nat) : Option CodePoint := if h : n < 0x110000 then some ⟨n, h⟩ else none

/-- An octal digit. -/
def isOctalDigit (c : Char) : Bool := '0' ≤ c && c ≤ '7'

/-- The character that a letter after a backslash stands for. -/
def short? (c : Char) : Option Char :=
  match c with
  | '\\' | '\'' | '"' => some c
  | 'a' => some '\x07'
  | 'b' => some '\x08'
  | 'f' => some '\x0c'
  | 'n' => some '\n'
  | 'r' => some '\r'
  | 't' => some '\t'
  | 'v' => some '\x0b'
  | _ => none

/-- A character outside of escapes. -/
def plain (c : Char) : State × Text := if c = '\\' then (.opened, []) else (.outside, [.ofChar c])

/-- The character after a backslash. -/
def afterBackslash (c : Char) : State × Text :=
  match short? c with
  | some value => (.outside, [.ofChar value])
  | none =>
    if c = '\n' then (.outside, [])
    else if isOctalDigit c then (.octal 2 (c.toNat - 48), [])
    else if c = 'x' then (.hex 2 0, [])
    else if c = 'u' then (.hex 4 0, [])
    else if c = 'U' then (.hex 8 0, [])
    else if c = 'N' then (.naming, [])
    else (.outside, [.ofChar '\\', .ofChar c])

/-- One character: the new state and what can be said of the value. -/
def step (s : State) (c : Char) : Option (State × Text) :=
  match s with
  | .outside => some (plain c)
  | .opened => some (afterBackslash c)
  | .octal left value =>
    if left > 0 && isOctalDigit c then some (.octal (left - 1) (8 * value + (c.toNat - 48)), [])
    else (codePoint? value).map fun v => ((plain c).1, v :: (plain c).2)
  | .hex left value =>
    if Numeral.isHexDigit c then
      let value := 16 * value + Text.Ranges.hexValue c
      if left ≤ 1 then (codePoint? value).map fun v => (.outside, [v]) else some (.hex (left - 1) value, [])
    else none
  | .naming => if c = '\x7b' then some (.named [], []) else none
  | .named letters =>
    if c = '\x7d' then (CodePoint.ofName? letters.reverse).map fun v => (.outside, [v])
    else some (.named (c :: letters), [])

/-- What is left to be said at the end. -/
def finish : State → Option Text
  | .outside => some []
  | .opened => some [.ofChar '\\']
  | .octal _ value => (codePoint? value).map fun v => [v]
  | _ => none

/-- The value of the characters from a state on. -/
def decodeFrom (s : State) : List Char → Option Text
  | [] => finish s
  | c :: cs => (step s c).bind fun r => (decodeFrom r.1 cs).map (r.2 ++ ·)

/-- The value of the characters between the quotes of a string; there is none if an escape is broken. -/
def decode (cs : List Char) : Option Text := decodeFrom .outside cs

/-- The value of characters in which a backslash means nothing. -/
def verbatim (cs : List Char) : Text := cs.map CodePoint.ofChar

/-- The state after a character of a byte string, and the bytes that it completes. -/
def byteStep (s : State) (c : Char) : Option (State × List Nat) :=
  let plain := if c = '\\' then (State.opened, []) else (.outside, [c.toNat])
  match s with
  | .outside => some plain
  | .opened =>
    match short? c with
    | some value => some (.outside, [value.toNat])
    | none =>
      if c = '\n' then some (.outside, [])
      else if isOctalDigit c then some (.octal 2 (c.toNat - 48), [])
      else if c = 'x' then some (.hex 2 0, [])
      else some (.outside, [92, c.toNat])
  | .octal left value =>
    if left > 0 && isOctalDigit c then some (.octal (left - 1) (8 * value + (c.toNat - 48)), [])
    else some (plain.1, value % 256 :: plain.2)
  | .hex left value =>
    if Numeral.isHexDigit c then
      let value := 16 * value + Text.Ranges.hexValue c
      if left ≤ 1 then some (.outside, [value]) else some (.hex (left - 1) value, [])
    else none
  | _ => none

/-- The bytes of the characters from a state on. -/
def bytesFrom (s : State) : List Char → Option (List Nat)
  | [] =>
    match s with
    | .outside => some []
    | .octal _ value => some [value % 256]
    | _ => none
  | c :: cs => (byteStep s c).bind fun r => (bytesFrom r.1 cs).map (r.2 ++ ·)

/-- The bytes of the characters between the quotes of a byte string, which are ASCII. -/
def decodeBytes (isRaw : Bool) (cs : List Char) : Option (List UInt8) :=
  if cs.all (·.toNat < 0x80) then
    let bytes := if isRaw then some (cs.map Char.toNat) else bytesFrom .outside cs
    bytes.map fun ns => ns.map UInt8.ofNat
  else none

end Crosswalk.Escape

import Crosswalk.Text.Quoted

/-!
# UTF-8

Reading bytes as UTF-8, with the place and the cause of the first fault. A fault covers the longest
part of the bytes at that place that could have begun a character, and at least one byte.
-/

namespace Crosswalk.Utf8

/-- Why bytes are no UTF-8. -/
inductive Cause
  | start
  | continuation
  | ending
  deriving DecidableEq

/-- The first fault in a sequence of bytes: the bytes it covers, from the first to before the last. -/
structure Fault where
  cause : Cause
  first : UInt8
  offset : Nat
  width : Nat
  deriving DecidableEq

/-- The fault in words. -/
def Fault.message (f : Fault) : String :=
  let place :=
    if f.width = 1 then
      "byte 0x" ++ String.ofList (hexDigits 2 f.first.toNat) ++ " in position " ++ toString f.offset
    else "bytes in position " ++ toString f.offset ++ "-" ++ toString (f.offset + f.width - 1)
  let cause := match f.cause with
    | .start => "invalid start byte"
    | .continuation => "invalid continuation byte"
    | .ending => "unexpected end of data"
  "'utf-8' codec can't decode " ++ place ++ ": " ++ cause

/-- The six bits of a continuation byte. -/
def continuation? (b : UInt8) : Option Nat :=
  if 0x80 ≤ b && b < 0xC0 then some (b.toNat - 0x80) else none

/-- What a first byte announces: the number of bytes that follow and the bits it brings. -/
def lead? (b : UInt8) : Option (Nat × Nat) :=
  if b < 0x80 then some (0, b.toNat)
  else if 0xC2 ≤ b && b < 0xE0 then some (1, b.toNat - 0xC0)
  else if 0xE0 ≤ b && b < 0xF0 then some (2, b.toNat - 0xE0)
  else if 0xF0 ≤ b && b < 0xF5 then some (3, b.toNat - 0xF0)
  else none

/-- Whether the second byte keeps the character in range: no overlong form, no surrogate, nothing
above the last code point. -/
def secondFits (first second : UInt8) : Bool :=
  (first != 0xE0 || 0xA0 ≤ second) && (first != 0xED || second < 0xA0) &&
    (first != 0xF0 || 0x90 ≤ second) && (first != 0xF4 || second < 0x90)

/-- Reads the rest of a character: the code and the bytes left, or the cause and how many bytes fitted. -/
def readRest (first : UInt8) : Nat → Nat → Nat → List UInt8 → Except (Cause × Nat) (Nat × List UInt8)
  | 0, _, bits, bytes => .ok (bits, bytes)
  | _ + 1, seen, _, [] => .error (.ending, seen)
  | count + 1, seen, bits, b :: bytes =>
    match continuation? b with
    | some six =>
      if seen = 1 && !secondFits first b then .error (.continuation, seen)
      else readRest first count (seen + 1) (64 * bits + six) bytes
    | none => .error (.continuation, seen)

theorem readRest_length {first : UInt8} {count seen bits : Nat} {bytes : List UInt8}
    {r : Nat × List UInt8} (h : readRest first count seen bits bytes = .ok r) :
    r.2.length ≤ bytes.length := by
  fun_induction readRest first count seen bits bytes with
  | case1 => cases h; exact Nat.le_refl _
  | case2 => cases h
  | case3 => cases h
  | case4 _ _ _ _ _ _ _ _ ih => exact Nat.le_succ_of_le (ih h)
  | case5 => cases h

/-- Reads bytes that start at the given offset. -/
def decodeFrom (offset : Nat) (bytes : List UInt8) : Except Fault (List Char) :=
  match bytes with
  | [] => .ok []
  | b :: rest =>
    match lead? b with
    | none => .error ⟨.start, b, offset, 1⟩
    | some (count, bits) =>
      match h : readRest b count 1 bits rest with
      | .error (cause, seen) => .error ⟨cause, b, offset, seen⟩
      | .ok (code, rest') =>
        have : rest'.length ≤ rest.length := readRest_length h
        (Char.ofNat code :: ·) <$> decodeFrom (offset + 1 + count) rest'
termination_by bytes.length

/-- Reads bytes as UTF-8. -/
def decode (bytes : List UInt8) : Except Fault String := String.ofList <$> decodeFrom 0 bytes

end Crosswalk.Utf8

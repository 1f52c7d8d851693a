/-!
# Text of code points

A program's string values are sequences of code points in which a surrogate may stand alone, so they do
not fit into `String`. `Text` holds them. `Text.ofString` embeds `String`, and `toString_ofString` says
that nothing is lost on the way.
-/

namespace Crosswalk

/-- A Unicode code point, surrogates included. -/
abbrev CodePoint := Fin 0x110000

namespace CodePoint

theorem val_lt_of_char (c : Char) : c.val.toNat < 0x110000 := by
  have h := c.valid
  simp only [UInt32.isValidChar, Nat.isValidChar] at h
  omega

/-- The code point of a character. -/
def ofChar (c : Char) : CodePoint := ⟨c.val.toNat, val_lt_of_char c⟩

/-- Surrogates are the code points that are no characters. -/
def isSurrogate (c : CodePoint) : Bool := 0xD800 ≤ c.val && c.val < 0xE000

/-- The character of a code point that is no surrogate. -/
def toChar? (c : CodePoint) : Option Char :=
  if h : c.val.isValidChar then some (Char.ofNatAux c.val h) else none

/-- The character of a code point; a surrogate becomes the replacement character. -/
def toChar (c : CodePoint) : Char := c.toChar?.getD '\uFFFD'

@[simp] theorem toChar?_ofChar (c : Char) : (ofChar c).toChar? = some c := by
  have h : c.val.toNat.isValidChar := c.valid
  unfold toChar? ofChar
  rw [dif_pos h]
  rfl

@[simp] theorem toChar_ofChar (c : Char) : (ofChar c).toChar = c := by
  simp [toChar]

end CodePoint

/-- A string value: any sequence of code points. -/
abbrev Text := List CodePoint

namespace Text

/-- The text of a string. -/
def ofString (s : String) : Text := s.toList.map CodePoint.ofChar

/-- The string of a text, with the replacement character for each surrogate. -/
def toString (t : Text) : String := String.ofList (t.map CodePoint.toChar)

@[simp] theorem toString_ofString (s : String) : toString (ofString s) = s := by
  simp [toString, ofString, Function.comp_def]

theorem ofString_inj {s t : String} : ofString s = ofString t ↔ s = t :=
  ⟨fun h => by rw [← toString_ofString s, h, toString_ofString], fun h => h ▸ rfl⟩

@[simp] theorem ofString_append (s t : String) : ofString (s ++ t) = ofString s ++ ofString t := by
  simp [ofString]

end Text

end Crosswalk

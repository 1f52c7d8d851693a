import Crosswalk.Text.Basic

/-!
# Blank characters

The characters that count as whitespace in string values: the blanks of ASCII, the four information
separators, the next-line control and the Unicode spaces and separators.
-/

namespace Crosswalk.CodePoint

/-- Whitespace in the sense of Unicode's separators and bidirectional classes. -/
def isBlank (c : CodePoint) : Bool :=
  (9 ≤ c.val && c.val ≤ 13) || (28 ≤ c.val && c.val ≤ 32) || c.val == 0x85 || c.val == 0xA0 ||
    c.val == 0x1680 || (0x2000 ≤ c.val && c.val ≤ 0x200A) || c.val == 0x2028 || c.val == 0x2029 ||
    c.val == 0x202F || c.val == 0x205F || c.val == 0x3000

end Crosswalk.CodePoint

namespace Crosswalk.Text

/-- A text of blanks only, possibly empty. -/
def isBlank (t : Text) : Bool := t.all CodePoint.isBlank

end Crosswalk.Text

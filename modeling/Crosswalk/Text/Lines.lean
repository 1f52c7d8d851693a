import Crosswalk.Text.Blank

/-!
# Lines

Two ways to cut a text into lines: at line feeds only, which are left out, and at every character that
Unicode or ASCII calls a line break, which then stays at the end of its line. `unified` leaves line feeds as the
only line ends of the three that files have.
-/

namespace Crosswalk.Text.Lines

/-- The lines between line feeds. There is always at least one. -/
def split : List Char → List (List Char)
  | [] => [[]]
  | c :: cs =>
    if c = '\n' then [] :: split cs
    else
      match split cs with
      | [] => [[c]]
      | line :: lines => (c :: line) :: lines

/-- The characters that end a line, apart from the return before a line feed. -/
def isBreak (c : Char) : Bool :=
  (10 ≤ c.toNat && c.toNat ≤ 13) || (28 ≤ c.toNat && c.toNat ≤ 30) || c.toNat = 0x85 ||
    c.toNat = 0x2028 || c.toNat = 0x2029

/-- The lines with what ends them. No line is empty. -/
def keepingBreaks : List Char → List (List Char)
  | [] => []
  | c :: cs =>
    if isBreak c && !(c = '\r' && cs.head? = some '\n') then [c] :: keepingBreaks cs
    else
      match keepingBreaks cs with
      | [] => [[c]]
      | line :: lines => (c :: line) :: lines

/-- The text with every line ended by a line feed alone, where a return or a return and a line feed did. -/
def unified : List Char → List Char
  | [] => []
  | '\r' :: '\n' :: cs => '\n' :: unified cs
  | c :: cs => (if c = '\r' then '\n' else c) :: unified cs

/-- Without blanks at both ends. -/
def trim (line : List Char) : List Char :=
  let blank (c : Char) : Bool := (CodePoint.ofChar c).isBlank
  ((line.dropWhile blank).reverse.dropWhile blank).reverse

end Crosswalk.Text.Lines

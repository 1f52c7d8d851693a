import Crosswalk.Syntax.Stmt

/-!
# Tokens

The tokens of a source: words, literals, operators, and the three that stand for its layout, the end of
a logical line and the begin and end of a suite. A list of tokens ends with `ending` or, where the
characters form no token, with a fault.
-/

namespace Crosswalk

/-- The kinds of error that a source which does not parse is rejected with. -/
inductive SyntaxError
  | malformed
  | indentation
  | tabs
  deriving DecidableEq, Repr

/-- What stands for the error in a log. -/
def SyntaxError.label : SyntaxError → String
  | .malformed => "<SyntaxError>"
  | .indentation => "<IndentationError>"
  | .tabs => "<TabError>"

/-- Why characters form no token. -/
inductive TokenFault
  /-- A character, number, string or bracket that is never right. -/
  | malformed
  /-- The source ends too early, or something follows a backslash. -/
  | cutOff
  /-- An indentation that matches none of those around it, or one too many. -/
  | indentation
  /-- An indentation whose depth depends on the width of a tab. -/
  | tabs
  deriving DecidableEq, Repr

/-- The error that a faulty token is rejected with. -/
def TokenFault.error : TokenFault → SyntaxError
  | .malformed | .cutOff => .malformed
  | .indentation => .indentation
  | .tabs => .tabs

/-- A string literal as it is written: what its letters in front say, and what is between the quotes. -/
structure StringToken where
  isRaw : Bool
  isBytes : Bool
  isInterpolated : Bool
  /-- The letter in front is a small `u`. -/
  isMarked : Bool
  body : List Char

/-- What a token is. -/
inductive TokenKind
  | word (text : String)
  /-- A number; there is no value if it has too many digits. -/
  | number (value : Option Constant)
  | string (literal : StringToken)
  | op (text : String)
  | newline
  | indent
  | dedent
  | ending
  | fault (cause : TokenFault)

/-- A token and where it stands. Columns count bytes. -/
structure Token where
  kind : TokenKind
  start : Pos
  stop : Pos

/-- The place after a character. -/
def Pos.advance (p : Pos) (c : Char) : Pos :=
  if c = '\n' then ⟨p.line + 1, 0⟩ else ⟨p.line, p.column + c.utf8Size⟩

/-- The place after some characters. -/
def Pos.advanceAll (p : Pos) (cs : List Char) : Pos := cs.foldl Pos.advance p

end Crosswalk

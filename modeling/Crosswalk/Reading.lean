import Crosswalk.Comment.Place
import Crosswalk.Grammar.Statement

/-!
# Reading a source

`Tree.read` gives the tree of a source with its comments in place. The statements and the comments are
found by two scans that do not always agree on where a string ends, so a source that parses may still be
unreadable.
-/

namespace Crosswalk

/-- Why a source has no tree. -/
inductive ReadError
  | nullCharacter
  | rejected (error : SyntaxError)
  /-- To the scan for comments, a string that begins at the place given has no end. -/
  | openString (start : Pos)
  /-- To the scan for comments, a statement is still open on the line given, the last one. -/
  | openStatement (line : Nat)
  /-- A statement reaches beyond the last line. -/
  | missingLine
  deriving DecidableEq

/-- A place in words. -/
def Pos.text (p : Pos) : String := "(" ++ toString p.line ++ ", " ++ toString p.column ++ ")"

/-- The error in words. -/
def ReadError.message : ReadError → String
  | .nullCharacter => "source code string cannot contain null bytes"
  | .rejected e => e.label
  | .openString start => "('EOF in multi-line string', " ++ start.text ++ ")"
  | .openStatement line => "('EOF in multi-line statement', " ++ Pos.text ⟨line, 0⟩ ++ ")"
  | .missingLine => "list index out of range"

/-- The error that a fault of the scan for comments is reported as. -/
def Comment.ScanFault.error : Comment.ScanFault → ReadError
  | .openString start => .openString start
  | .openStatement line => .openStatement line
  | .indentation => .rejected .indentation

/-- The comments of a source. -/
def readComments (source : List Char) : Except ReadError (List Comment) :=
  (Comment.scan source).mapError Comment.ScanFault.error

namespace Tree

/-- The tree of a source, its comments included. -/
def read (source : String) : Except ReadError Tree := do
  let chars := source.toList
  if chars.contains '\x00' then throw .nullCharacter
  let bare ← (Tree.parse chars).mapError .rejected
  let comments ← readComments chars
  match Comment.place chars comments bare with
  | some tree => return tree
  | none => throw .missingLine

end Tree

end Crosswalk

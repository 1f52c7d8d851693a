import Crosswalk.Syntax.Stmt
import Crosswalk.Text.Lines
import Crosswalk.Token.Basic

/-!
# Finding comments

Comments are found by a scan of their own, which knows just enough of the language to tell a number sign
in a string from one that begins a comment. It cuts the source into lines at more characters than the
language does: a string on one line that is interrupted by such a character is none to the scan. A line of
nothing but blanks that has no line feed ends the scan.
-/

namespace Crosswalk.Comment

/-- Why the scan fails. -/
inductive ScanFault
  /-- A string that began at the place given goes on to the end. -/
  | openString (start : Pos)
  /-- A bracket or a backslash goes on to the end, which is on the line given. -/
  | openStatement (line : Nat)
  /-- A line is indented like none of those around it. -/
  | indentation
  deriving DecidableEq

/-- A string that goes on beyond its line. -/
structure OpenString where
  mark : Char
  isTriple : Bool
  start : Pos

/-- Where the scan stands: the indentations around, the balance of the brackets, whether a backslash
ended the last line, and the string that is open. -/
structure Scan where
  indents : List Nat
  balance : Int
  isContinued : Bool
  open? : Option OpenString

/-- What is left after the end of a string in triple quotes, if it ends on this line. -/
def afterTriple (mark : Char) : List Char → Option (List Char)
  | [] => none
  | '\\' :: _ :: cs => afterTriple mark cs
  | c :: cs => if c = mark && [mark, mark].isPrefixOf cs then some (cs.drop 2) else afterTriple mark cs

/-- How a string on one line goes on. -/
inductive ShortEnd
  | closed (rest : List Char)
  | continued
  | broken

/-- Reads a string on one line after its quote. A line feed may stand in it only after a backslash; `isLate`
says that the string began on an earlier line and may hold line feeds. -/
def afterShort (isLate : Bool) (mark : Char) : List Char → ShortEnd
  | [] => .broken
  | ['\\', '\n'] => if isLate then .broken else .continued
  | ['\\', '\r', '\n'] => if isLate then .broken else .continued
  | '\\' :: c :: cs => if c = '\n' then .broken else afterShort isLate mark cs
  | c :: cs =>
    if c = mark then .closed cs
    else if c = '\n' && !isLate then .broken
    else afterShort isLate mark cs

/-- A comment as the scan finds it: its column and its text. -/
abbrev Found := Nat × List Char

/-- Scans the midst of a line from the column given. -/
def scanRest (fuel line column : Nat) (s : Scan) (cs : List Char) : List Found × Scan :=
  match fuel with
  | 0 => ([], s)
  | fuel + 1 =>
    let skip (s : Scan) (cs : List Char) : List Found × Scan := scanRest fuel line (column + 1) s cs
    let goto (rest : List Char) : List Found × Scan :=
      scanRest fuel line (column + (cs.length - rest.length)) s rest
    match cs with
    | [] => ([], s)
    | c :: rest =>
      if c = '#' then
        let text := cs.takeWhile fun c => c ≠ '\r' && c ≠ '\n'
        let (found, s) := goto (cs.drop text.length)
        ((column, text) :: found, s)
      else if c = '\'' || c = '"' then
        let opened (isTriple : Bool) : List Found × Scan :=
          ([], { s with open? := some ⟨c, isTriple, ⟨line, column⟩⟩ })
        if [c, c].isPrefixOf rest then
          match afterTriple c (rest.drop 2) with
          | some rest => goto rest
          | none => opened true
        else
          match afterShort false c rest with
          | .closed rest => goto rest
          | .continued => opened false
          | .broken => skip s rest
      else if c = '\\' && (rest = ['\n'] || rest = ['\r', '\n']) then
        ([], { s with isContinued := true })
      else if c = '(' || c = '[' || c = '\x7b' then skip { s with balance := s.balance + 1 } rest
      else if c = ')' || c = ']' || c = '\x7d' then skip { s with balance := s.balance - 1 } rest
      else skip s rest

/-- The indentation of a line, and the rest of it with the column where it begins. -/
def measure (column width : Nat) : List Char → Nat × Nat × List Char
  | ' ' :: cs => measure (column + 1) (width + 1) cs
  | '\t' :: cs => measure (column + 1) ((width / 8 + 1) * 8) cs
  | '\x0c' :: cs => measure (column + 1) 0 cs
  | cs => (width, column, cs)

/-- The indentations around a line of the given one. -/
def settle (width : Nat) (indents : List Nat) : Option (List Nat) :=
  match indents with
  | [] => none
  | top :: _ =>
    if width > top then some (width :: indents)
    else if indents.contains width then some (indents.dropWhile (· > width))
    else none

/-- A comment on a line of the source. It is inline unless it is all there is on the line, line feeds
and the blanks in front apart. -/
def make (lineNumber : Nat) (line : List Char) (found : Found) : Comment :=
  let strip (cs : List Char) : List Char := cs.dropWhile (· = '\n')
  let bare := (strip (strip line).reverse).reverse.dropWhile (· = ' ')
  ⟨String.ofList found.2, found.2 != bare,
    ⟨lineNumber, found.1, lineNumber, found.1 + found.2.length⟩⟩

/-- Scans a whole line. There is no state after it if the scan ends with it. -/
def scanLine (lineNumber : Nat) (line : List Char) (s : Scan) :
    Except ScanFault (List Found × Option Scan) :=
  let fuel := line.length + 1
  match s.open? with
  | some o =>
    let closed := { s with open? := none }
    let after (rest : List Char) : List Found × Option Scan :=
      let (found, s) := scanRest fuel lineNumber (line.length - rest.length) closed rest
      (found, some s)
    if o.isTriple then
      match afterTriple o.mark line with
      | some rest => .ok (after rest)
      | none => .ok ([], some s)
    else
      match afterShort true o.mark line with
      | .closed rest => .ok (after rest)
      | _ =>
        if ['\n', '\\'].isPrefixOf line.reverse || ['\n', '\r', '\\'].isPrefixOf line.reverse then
          .ok ([], some s)
        else .ok ([], some closed)
  | none =>
    if s.balance = 0 && !s.isContinued then
      let (width, column, rest) := measure 0 0 line
      match rest with
      | [] => .ok ([], none)
      | c :: _ =>
        if c = '#' then
          let text := (rest.reverse.dropWhile fun c => c = '\r' || c = '\n').reverse
          .ok ([(column, text)], some s)
        else if c = '\r' || c = '\n' then .ok ([], some s)
        else
          match settle width s.indents with
          | none => .error .indentation
          | some indents =>
            let (found, s) := scanRest fuel lineNumber column { s with indents := indents } rest
            .ok (found, some s)
    else
      let (found, s) := scanRest fuel lineNumber 0 { s with isContinued := false } line
      .ok (found, some s)

/-- Scans the lines from a number on. -/
def scanLines (s : Scan) (lineNumber : Nat) : List (List Char) → Except ScanFault (List Comment)
  | [] =>
    match s.open? with
    | some o => .error (.openString o.start)
    | none => if s.balance = 0 && !s.isContinued then .ok [] else .error (.openStatement lineNumber)
  | line :: lines => do
    let (found, next) ← scanLine lineNumber line s
    let comments := found.map (make lineNumber line)
    match next with
    | some s => return comments ++ (← scanLines s (lineNumber + 1) lines)
    | none => return comments

/-- The comments of a source, in order. -/
def scan (source : List Char) : Except ScanFault (List Comment) :=
  scanLines ⟨[0], 0, false, none⟩ 1 (Text.Lines.keepingBreaks source)

end Crosswalk.Comment

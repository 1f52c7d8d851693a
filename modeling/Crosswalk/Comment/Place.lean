import Crosswalk.Comment.Scan
import Crosswalk.Syntax.Place
import Crosswalk.Syntax.Walk

/-!
# Placing comments

A comment becomes a statement of the suite that it most likely belongs to. For every block the lines that
it covers are worked out, stretched over neighbouring lines that are indented as deep. A comment goes to
the block that begins last among those that cover its line, there to the first suite that reaches its line,
and in the suite to its place by line.
-/

namespace Crosswalk.Comment

/-- What placing needs to know of a block, or of the source as a whole: the lines it covers, where it
begins, the lines its suites cover, and the extent that it has in the end. -/
structure Region where
  low : Nat
  high : Nat
  owner : Option Pos
  suites : List (Nat × Nat × Suite)
  extent : Option Span
  deriving DecidableEq

/-- The lines of a source, the first one at number one. -/
structure Lines where
  all : Array (List Char)

namespace Lines

/-- The lines of a source. -/
def ofSource (source : List Char) : Lines := ⟨(Text.Lines.split source).toArray⟩

/-- The number of lines. -/
def count (ls : Lines) : Nat := ls.all.size

/-- The line of a number; before the first line stands an empty one. -/
def get? (ls : Lines) (n : Nat) : Option (List Char) :=
  if n = 0 then some [] else ls.all[n - 1]?

/-- The indentation of a line, a tab counted as four blanks. -/
def indentOf (line : List Char) : Nat :=
  match line with
  | ' ' :: cs => indentOf cs + 1
  | '\t' :: cs => indentOf cs + 4
  | _ => 0

/-- The indentation of the line of a number, zero if there is none. -/
def indent (ls : Lines) (n : Nat) : Nat := ((ls.get? n).map indentOf).getD 0

/-- Whether a line is a comment with only blanks in front. -/
def isCommentLine (line : List Char) : Bool := (line.dropWhile (· = ' ')).head? = some '#'

/-- The indentation of the first line that holds something else than a comment, from a number on. -/
def firstIndent (ls : Lines) (n : Nat) : Nat :=
  let line := (ls.all.toList.drop (n - 1)).find? fun l =>
    !(Text.Lines.trim l).isEmpty && !isCommentLine l
  (line.map indentOf).getD 0

/-- Stretches upward over lines that are indented as deep, and over comments. -/
def stretchUp (ls : Lines) (depth : Nat) : Nat → Nat
  | 0 => 0
  | low + 1 =>
    if low > 0 && (((ls.get? low).any isCommentLine) || depth ≤ ls.indent low) then stretchUp ls depth low
    else low + 1

/-- Stretches downward over lines that are indented as deep. -/
def stretchDown (ls : Lines) (depth high : Nat) : Nat → Nat
  | 0 => high
  | steps + 1 =>
    if high + 1 ≤ ls.count && depth ≤ ls.indent (high + 1) then stretchDown ls depth (high + 1) steps
    else high

/-- Stretches a range of lines. There is no answer if its first line does not exist. -/
def stretch (ls : Lines) (low high : Nat) : Option (Nat × Nat) :=
  (ls.get? low).map fun first =>
    let own := indentOf first
    let depth := if low = high then own else max own (ls.firstIndent (low + 1))
    (if depth = own then ls.stretchUp depth low else low,
      if high ≤ ls.count then ls.stretchDown depth high (ls.count - high) else high)

end Lines

/-- The first and the last line of a statement. A case covers its pattern and its body. -/
def ownLines : Stmt → Nat × Nat
  | .block s (.case ..) body _ _ _ =>
    (body.foldl (fun n b => min n b.span.line) s.line, body.foldl (fun n b => max n b.span.endLine) s.endLine)
  | s => (s.span.line, s.span.endLine)

/-- The first and the last line of some statements. -/
def linesOf : List Stmt → Option (Nat × Nat)
  | [] => none
  | s :: rest =>
    let own := ownLines s
    match linesOf rest with
    | some (low, high) => some (min own.1 low, max own.2 high)
    | none => some own

/-- The lines that suites cover; empty ones are left out. -/
def suiteRanges (ls : Lines) : List (Suite × List Stmt) → Option (List (Nat × Nat × Suite))
  | [] => some []
  | (name, ss) :: rest =>
    match linesOf ss with
    | none => suiteRanges ls rest
    | some (low, high) => do
      let (low, high) ← ls.stretch low high
      return (low, high, name) :: (← suiteRanges ls rest)

/-- The region of some statements that have no extent of their own: their lines and what they stretch to. -/
def bareRegion (owner : Option Pos) (own : Nat × Nat) (ranges : List (Nat × Nat × Suite)) : Region :=
  ⟨ranges.foldl (fun n r => min n r.1) own.1, ranges.foldl (fun n r => max n r.2.1) own.2, owner, ranges,
    none⟩

/-- The region of a block. -/
def regionOf (ls : Lines) : Stmt → Option (List Region)
  | .block s head body handlers orelse final => do
    let ranges ← suiteRanges ls
      [(.body, body), (.handlers, handlers), (.orelse, orelse), (.final, final)]
    if ranges.isEmpty then return []
    match head with
    | .case .. =>
      return [bareRegion (some s.start) (ownLines (.block s head body handlers orelse final)) ranges]
    | _ =>
      let (low, high) ← ls.stretch s.line s.endLine
      let last ← ls.get? high
      return [⟨low, high, some s.start, ranges, some ⟨low, s.column, high, last.length⟩⟩]
  | _ => some []

/-- The region of the source as a whole, if there is any statement in it. -/
def wholeRegion (ls : Lines) (t : Tree) : Option (List Region) := do
  let ranges ← suiteRanges ls [(.body, t)]
  return ((linesOf t).map fun own => bareRegion none own ranges).toList

/-- All regions, outer ones first. -/
def regions (ls : Lines) (t : Tree) : Option (List Region) := do
  let inner ← (Tree.walk t).mapM (regionOf ls)
  return (← wholeRegion ls t) ++ inner.flatten

/-- Whether the second region is to be preferred: it begins later, or ends earlier, or covers the same
lines and comes later. -/
def isCloser (a b : Region) : Bool := a.low < b.low || (a.low = b.low && b.high ≤ a.high)

/-- The region that a line belongs to. -/
def regionAt (rs : List Region) (line : Nat) : Option Region :=
  (rs.filter fun r => r.low ≤ line && line ≤ r.high).foldl
    (fun best r => match best with
      | none => some r
      | some b => if isCloser b r then some r else some b) none

/-- The suite of a region that a line belongs to: the first one that reaches it, or the last one. -/
def Region.suiteAt (r : Region) (line : Nat) : Suite :=
  match r.suites.find? fun s => line ≤ s.2.1 || line < s.1 with
  | some s => s.2.2
  | none => ((r.suites.getLast?).map (·.2.2)).getD .body

/-- The last line of a statement that is no case, as it will be in the end. -/
def finalEnd (rs : List Region) (s : Stmt) : Nat :=
  match s with
  | .block span .. =>
    match (rs.find? fun r => r.owner = some span.start).bind (·.extent) with
    | some extent => extent.endLine
    | none => span.endLine
  | s => s.span.endLine

/-- The last line of a statement, as it will be in the end. -/
def lastLine (rs : List Region) : Stmt → Nat
  | .block span (.case ..) body _ _ _ => body.foldl (fun n s => max n (finalEnd rs s)) span.endLine
  | s => finalEnd rs s

/-- Of comments that follow one another only the first can be inline. -/
def separate (afterComment : Bool) : List Stmt → List Stmt
  | [] => []
  | .comment c :: rest =>
    .comment (if afterComment then { c with isInline := false } else c) :: separate true rest
  | s :: rest => s :: separate false rest

/-- Adds a comment to a suite: statements and comments stand in the order of their last lines, a comment
after a statement that ends on its line. -/
def addTo (rs : List Region) (c : Comment) (suite : List Stmt) : List Stmt :=
  let le (a b : Stmt) : Bool :=
    lastLine rs a < lastLine rs b || (lastLine rs a = lastLine rs b && (!a.isComment || b.isComment))
  separate false ((suite ++ [Stmt.comment c]).mergeSort le)

mutual

/-- Adds a comment to a suite of the block that begins at a place. -/
def addInside (rs : List Region) (owner : Pos) (suite : Suite) (c : Comment) : Stmt → Stmt
  | .block span head body handlers orelse final =>
    let mine := span.start = owner
    let add (name : Suite) (ss : List Stmt) : List Stmt := if mine && suite = name then addTo rs c ss else ss
    .block span head
      (add .body (addInsideAll rs owner suite c body))
      (add .handlers (addInsideAll rs owner suite c handlers))
      (add .orelse (addInsideAll rs owner suite c orelse))
      (add .final (addInsideAll rs owner suite c final))
  | s => s

/-- Adds a comment to a suite of the block that begins at a place, wherever it is among some statements. -/
def addInsideAll (rs : List Region) (owner : Pos) (suite : Suite) (c : Comment) : List Stmt → List Stmt
  | [] => []
  | s :: rest => addInside rs owner suite c s :: addInsideAll rs owner suite c rest

end

/-- Adds a comment to a tree. -/
def add (rs : List Region) (t : Tree) (c : Comment) : Tree :=
  match regionAt rs c.span.line with
  | some r =>
    match r.owner with
    | some owner => addInsideAll rs owner (r.suiteAt c.span.line) c t
    | none => addTo rs c t
  | none => addTo rs c t

mutual

/-- Gives a statement and those in it their final extents. -/
def widen (rs : List Region) : Stmt → Stmt
  | .block span head body handlers orelse final =>
    .block (((rs.find? fun r => r.owner = some span.start).bind (·.extent)).getD span) head
      (widenAll rs body) (widenAll rs handlers) (widenAll rs orelse) (widenAll rs final)
  | s => s

/-- Gives statements and those in them their final extents. -/
def widenAll (rs : List Region) : List Stmt → List Stmt
  | [] => []
  | s :: rest => widen rs s :: widenAll rs rest

end

/-- Places the comments of a source in its tree. There is no answer if the tree has a line that the
source has not. -/
def place (source : List Char) (comments : List Comment) (t : Tree) : Option Tree :=
  if comments.isEmpty then some t
  else
    (regions (.ofSource source) t).map fun rs => widenAll rs (comments.foldl (add rs) t)

end Crosswalk.Comment

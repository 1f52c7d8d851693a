import Crosswalk.Token.Lexer
import Crosswalk.Token.StringValue

/-!
# Interpolated strings

An interpolated string is literal text with expressions in braces. Doubled braces stand for braces. An
expression ends at the first colon, exclamation mark, equals sign or closing brace outside of brackets
and strings; it may hold neither a backslash nor a number sign. A format may hold expressions again,
whose formats are text.
-/

namespace Crosswalk.Interpolation

/-- Puts literal text in front of pieces; no two literals stand side by side. -/
def addLiteral (t : Text) : List Piece → List Piece
  | .literal u :: rest => .literal (t ++ u) :: rest
  | pieces => if t.isEmpty then pieces else .literal t :: pieces

/-- The pieces of two strings side by side. -/
def join : List Piece → List Piece → List Piece
  | [], qs => qs
  | [.literal t], qs => addLiteral t qs
  | p :: ps, qs => p :: join ps qs

/-- Literal text up to a brace: the text, whether it ends with a doubled brace, and the rest. Inside a
format braces are not doubled. -/
def literal (isRaw isFormat : Bool) : List Char → Option (List Char × Bool × List Char)
  | [] => some ([], false, [])
  | c :: cs =>
    let braces (c : Char) (cs : List Char) : Option (List Char × Bool × List Char) :=
      if isFormat then some ([], false, c :: cs)
      else if cs.head? = some c then some ([c], true, cs.drop 1)
      else if c = '\x7d' then none
      else some ([], false, c :: cs)
    let add (s : List Char) (r : Option (List Char × Bool × List Char)) :=
      r.map fun r => (s ++ r.1, r.2)
    if c = '\\' && !isRaw then
      match cs with
      | [] => some ([c], false, [])
      | 'N' :: '\x7b' :: cs' => named isRaw isFormat ['\x7b', 'N', '\\'] cs'
      | d :: cs' =>
        if d = '\x7b' || d = '\x7d' then add [c] (braces d cs')
        else add [c, d] (literal isRaw isFormat cs')
    else if c = '\x7b' || c = '\x7d' then braces c cs
    else add [c] (literal isRaw isFormat cs)
where
  /-- The name of a character, up to its closing brace. `seen` is what came before, last one first. -/
  named (isRaw isFormat : Bool) (seen : List Char) :
      List Char → Option (List Char × Bool × List Char)
    | [] => some (seen.reverse, false, [])
    | c :: cs =>
      if c = '\x7d' then (literal isRaw isFormat cs).map fun r => ((c :: seen).reverse ++ r.1, r.2)
      else named isRaw isFormat (c :: seen) cs

/-- Where the scan of an expression stands with regard to strings. -/
inductive Quoting
  | outside
  /-- After one or two marks that may begin a string. -/
  | opening (mark : Char) (count : Nat)
  | short (mark : Char)
  /-- In a triple-quoted string, after so many marks in a row. -/
  | long (mark : Char) (run : Nat)

/-- Where the scan of an expression stands. -/
structure Scan where
  quoting : Quoting
  brackets : List Char
  /-- The next character is the second one of an operator. -/
  inOperator : Bool

/-- What a character means to the scan. -/
inductive Outcome
  | go (next : Scan)
  | stop
  | refuse

/-- A character outside of strings. -/
def Scan.outside (s : Scan) (c : Char) (next : Option Char) : Outcome :=
  if s.inOperator then .go { s with inOperator := false }
  else if c = '\'' || c = '"' then .go { s with quoting := .opening c 1 }
  else if c = '#' then .refuse
  else if s.brackets.isEmpty && (c = '!' || c = '=' || c = '<' || c = '>') && next = some '=' then
    .go { s with inOperator := true }
  else if s.brackets.isEmpty && (c = '!' || c = '=' || c = ':' || c = '\x7d') then .stop
  else
    match Token.nest s.brackets c with
    | some brackets => .go { s with brackets := brackets }
    | none => .refuse

/-- The next character of an expression; no backslash is one. -/
def Scan.step (s : Scan) (c : Char) (next : Option Char) : Outcome :=
  if c = '\\' then .refuse
  else
    match s.quoting with
    | .outside => s.outside c next
    | .opening mark count =>
      if c = mark then
        .go { s with quoting := if count = 1 then .opening mark 2 else .long mark 0 }
      else if count = 1 then .go { s with quoting := .short mark }
      else Scan.outside { s with quoting := .outside } c next
    | .short mark => .go (if c = mark then { s with quoting := .outside } else s)
    | .long mark run =>
      .go { s with quoting :=
        if c ≠ mark then .long mark 0 else if run = 2 then .outside else .long mark (run + 1) }

/-- The text of an expression and the rest, which begins with the mark that ends it. -/
def expression (s : Scan) : List Char → Option (List Char × List Char)
  | [] => none
  | c :: cs =>
    match s.step c cs.head? with
    | .go next => (expression next cs).map fun r => (c :: r.1, r.2)
    | .stop => some ([], c :: cs)
    | .refuse => none

/-- Blanks that separate tokens inside an expression. -/
def isSpace (c : Char) : Bool := c = ' ' || c = '\t' || c = '\n' || c = '\x0c'

/-- The equals sign that asks for the text of the expression as well, with the blanks after it. -/
def debugMark (cs : List Char) : List Char × List Char :=
  match cs with
  | '=' :: rest =>
    let blanks := rest.takeWhile fun c => isSpace c || c = '\r' || c = '\x0b'
    ('=' :: blanks, rest.drop blanks.length)
  | _ => ([], cs)

/-- A conversion mark. -/
def conversion (cs : List Char) : Option (Option Char × List Char) :=
  match cs with
  | '!' :: c :: rest => if c = 's' || c = 'r' || c = 'a' then some (some c, rest) else none
  | '!' :: [] => none
  | _ => some (none, cs)

/-- The value of literal text. -/
def literalValue (isRaw : Bool) (cs : List Char) : Option Text :=
  if isRaw then some (Escape.verbatim cs) else Escape.decode cs

/-- The pieces from here to the end, or to the closing brace of a format, with what is left. The text
of each expression is handed to `read`. -/
def pieces (read : List Char → Option Expr) (isRaw : Bool) (depth : Nat) (fuel : Nat)
    (cs : List Char) : Option (List Piece × List Char) :=
  match fuel with
  | 0 => none
  | fuel + 1 => do
    let (text, isDoubled, rest) ← literal isRaw (depth > 0) cs
    let value ← literalValue isRaw text
    if isDoubled then
      let (ps, rest) ← pieces read isRaw depth fuel rest
      return (addLiteral value ps, rest)
    match rest with
    | '\x7b' :: rest =>
      if depth ≥ 2 then none
      else
        let (source, rest) ← expression ⟨.outside, [], false⟩ rest
        if source.all isSpace then none
        else
          let e ← read source
          let (debug, rest) := debugMark rest
          let (mark, rest) ← conversion rest
          let shown := if debug.isEmpty then [] else Escape.verbatim (source ++ debug)
          match rest with
          | ':' :: rest =>
            let (format, rest) ← pieces read isRaw (depth + 1) fuel rest
            match rest with
            | '\x7d' :: rest =>
              let (ps, rest) ← pieces read isRaw depth fuel rest
              return (addLiteral (value ++ shown) (.formatted e mark format :: ps), rest)
            | _ => none
          | '\x7d' :: rest =>
            let mark := if debug.isEmpty || mark.isSome then mark else some 'r'
            let (ps, rest) ← pieces read isRaw depth fuel rest
            return (addLiteral (value ++ shown) (.value e mark :: ps), rest)
          | _ => none
    | _ => return (addLiteral value [], rest)

/-- The pieces of the body of an interpolated string. -/
def read (parse : List Char → Option Expr) (isRaw : Bool) (body : List Char) : Option (List Piece) :=
  match pieces parse isRaw 0 (2 * body.length + 2) body with
  | some (ps, []) => some ps
  | _ => none

end Crosswalk.Interpolation

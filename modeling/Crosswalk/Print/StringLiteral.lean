import Crosswalk.Text.Quoted

/-!
# String literals with few escapes

Docstrings and interpolated strings are written with as few backslashes as possible: the writer looks
for a kind of quotes that does not occur in the text, and line breaks and tabs may stand as they are.
Only when no kind of quotes is left does it fall back on the plain quoted form.
-/

namespace Crosswalk

/-- A kind of quotes: the mark, written once or three times. -/
structure Quotes where
  mark : Char
  isTriple : Bool
  deriving DecidableEq

namespace Quotes

/-- How the quotes are written. -/
def chars (q : Quotes) : List Char := if q.isTriple then [q.mark, q.mark, q.mark] else [q.mark]

/-- The quotes that may hold line breaks. -/
def multiline : List Quotes := [⟨'"', true⟩, ⟨'\'', true⟩]

/-- All kinds, the preferred ones first. -/
def all : List Quotes := [⟨'\'', false⟩, ⟨'"', false⟩] ++ multiline

/-- Whether one list of characters stands somewhere in another. -/
def occursIn (part : List Char) : List Char → Bool
  | [] => part.isEmpty
  | c :: cs => part.isPrefixOf (c :: cs) || occursIn part cs

/-- A string literal with the given quotes. -/
def wrap (q : Quotes) (body : List Char) : String := String.ofList (q.chars ++ body ++ q.chars)

end Quotes

namespace Text

/-- One character of a literal; line breaks and tabs are escaped on demand only. -/
def literalChar (escapeBlanks : Bool) (c : CodePoint) : List Char :=
  if !escapeBlanks && (c.val = 10 || c.val = 9) then [c.toChar]
  else if c.val = 92 || !c.isPrintable then c.escape
  else [c.toChar]

/-- The plain quoted form, under the first of the given kinds of quotes that has its mark. -/
def literalFallback (kinds : List Quotes) (t : Text) : List Char × List Quotes :=
  let mark := quoteFor t
  (quotedBody mark t, [(kinds.find? (·.mark = mark)).getD ⟨mark, false⟩])

/-- The body of a literal and the kinds of quotes it may be put into, the preferred ones first. A mark
at the end of the body is escaped if all kinds left consist of it. -/
def literalBody (escapeBlanks : Bool) (kinds : List Quotes) (t : Text) : List Char × List Quotes :=
  let body := t.flatMap (literalChar escapeBlanks)
  let kinds' := if body.contains '\n' then kinds.filter (·.isTriple) else kinds
  let kinds' := kinds'.filter fun q => !Quotes.occursIn q.chars body
  if kinds'.isEmpty then literalFallback kinds t
  else
    match body.getLast? with
    | none => (body, kinds')
    | some last =>
      let ordered := kinds'.filter (·.mark ≠ last) ++ kinds'.filter (·.mark = last)
      if ordered.all (·.mark = last) then (body.dropLast ++ ['\\', last], ordered) else (body, ordered)

/-- A literal in the best of the given kinds of quotes. -/
def literal (kinds : List Quotes) (t : Text) : String :=
  let (body, kinds') := literalBody false kinds t
  (kinds'.headD ⟨'\'', false⟩).wrap body

/-- The bodies of the parts of an interpolated string and the quotes that suit them all. Line breaks
and tabs are escaped in the parts that are marked as literal. -/
def literalParts : List Quotes → List (Text × Bool) → List Char × List Quotes
  | kinds, [] => ([], kinds)
  | kinds, (part, isLiteral) :: parts =>
    let (body, kinds') := literalBody isLiteral kinds part
    let (rest, kinds'') := literalParts kinds' parts
    (body ++ rest, kinds'')

end Text

end Crosswalk

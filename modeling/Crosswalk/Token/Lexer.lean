import Crosswalk.Text.Identifier
import Crosswalk.Text.Lines
import Crosswalk.Token.Basic
import Crosswalk.Token.Numeral

/-!
# Reading tokens

`Token.scan` turns the characters of a source into tokens. Lines end as in `Text.Lines.unified`. Blank lines and
comments give no tokens; inside brackets line ends and indentation mean nothing.
-/

namespace Crosswalk.Token

/-- Adds the line feed that ends the last line, if it is missing. -/
def closeLine (cs : List Char) : List Char :=
  if cs.getLast? = some '\n' then cs else cs ++ ['\n']

/-- What has to be known of the characters before: the place, the indentations of the suites around,
each measured with wide and with narrow tabs, and the brackets that are open. -/
structure Layout where
  pos : Pos
  indents : List (Nat × Nat)
  brackets : List Char

/-- The most suites inside one another, the source itself included. -/
def maxIndents : Nat := 100

/-- The most brackets inside one another. -/
def maxBrackets : Nat := 200

/-- The blanks in front of a line: its indentation with wide and with narrow tabs, the characters read,
and the rest. A form feed starts the count anew. A backslash joins the next line; the indentation is then
that of the first line. -/
structure Margin where
  wide : Nat
  narrow : Nat
  pos : Pos
  rest : List Char

/-- Reads the blanks in front of a line. `first` is the indentation before the first backslash. -/
def margin (first wide narrow : Nat) (pos : Pos) : List Char → Option Margin
  | ' ' :: cs => margin first (wide + 1) (narrow + 1) (pos.advance ' ') cs
  | '\t' :: cs => margin first ((wide / 8 + 1) * 8) (narrow + 1) (pos.advance '\t') cs
  | '\x0c' :: cs => margin first 0 0 (pos.advance '\x0c') cs
  | '\\' :: '\n' :: [] => none
  | '\\' :: '\n' :: cs =>
    margin (if first = 0 then wide else first) wide narrow ((pos.advance '\\').advance '\n') cs
  | '\\' :: _ => none
  | cs => if first = 0 then some ⟨wide, narrow, pos, cs⟩ else some ⟨first, first, pos, cs⟩

/-- The tokens for a change of indentation, and the indentations of the suites around from now on. -/
def reindent (wide narrow : Nat) (indents : List (Nat × Nat)) :
    Except TokenFault (List TokenKind × List (Nat × Nat)) :=
  match indents with
  | [] => .error .indentation
  | (w, n) :: _ =>
    if wide = w then if narrow = n then .ok ([], indents) else .error .tabs
    else if wide > w then
      if indents.length ≥ maxIndents then .error .indentation
      else if narrow ≤ n then .error .tabs
      else .ok ([.indent], (wide, narrow) :: indents)
    else
      let closed := (indents.takeWhile (·.1 > wide)).length
      match indents.drop closed with
      | [] => .error .indentation
      | (w', n') :: outer =>
        if w' ≠ wide then .error .indentation
        else if n' ≠ narrow then .error .tabs
        else .ok (List.replicate closed .dedent, (w', n') :: outer)

/-- The letters in front of a string literal. -/
def stringPrefixes : List (List Char) :=
  ["", "b", "r", "u", "f", "br", "rb", "fr", "rf"].map String.toList

/-- Reads up to the quote that ends a string on one line. A backslash shields the next character. -/
def stringBody (quote : Char) : List Char → Option (List Char × List Char)
  | [] => none
  | '\\' :: c :: cs => (stringBody quote cs).map fun r => ('\\' :: c :: r.1, r.2)
  | c :: cs =>
    if c = quote then some ([], cs)
    else if c = '\n' then none
    else (stringBody quote cs).map fun r => (c :: r.1, r.2)

/-- Reads up to the three quotes that end a string. -/
def longStringBody (quote : Char) : List Char → Option (List Char × List Char)
  | [] => none
  | '\\' :: c :: cs => (longStringBody quote cs).map fun r => ('\\' :: c :: r.1, r.2)
  | c :: cs =>
    if c = quote && [quote, quote].isPrefixOf cs then some ([], cs.drop 2)
    else (longStringBody quote cs).map fun r => (c :: r.1, r.2)

/-- Reads a string after its letters: what is between the quotes, and the rest. -/
def quotedBody? (cs : List Char) : Option (List Char × List Char) :=
  match cs with
  | [] => none
  | quote :: cs =>
    if [quote, quote].isPrefixOf cs then longStringBody quote (cs.drop 2) else stringBody quote cs

/-- How many letters stand in front of a string that begins here, if one does. -/
def stringPrefix? (cs : List Char) : Option Nat :=
  (List.range 3).find? fun n =>
    match cs.drop n with
    | c :: _ => (c = '\'' || c = '"') && stringPrefixes.contains ((cs.take n).map Char.toLower)
    | [] => false

/-- The string token with the given letters in front. -/
def stringToken (letters body : List Char) : StringToken :=
  let lower := letters.map Char.toLower
  ⟨lower.contains 'r', lower.contains 'b', lower.contains 'f', letters.head? = some 'u', body⟩

/-- The operators of more than one character, the longest ones first. -/
def longOperators : List (List Char) :=
  ["**=", "//=", ">>=", "<<=", "...", "!=", "%=", "&=", "**", "*=", "+=", "-=", "->", "//", "/=", ":=",
   "<<", "<=", "<>", "==", ">=", ">>", "@=", "^=", "|="].map String.toList

/-- The bracket that closes one. -/
def closing (c : Char) : Char := if c = '(' then ')' else if c = '[' then ']' else '\x7d'

/-- The brackets that are open after an operator of one character. -/
def nest (brackets : List Char) (c : Char) : Option (List Char) :=
  if c = '(' || c = '[' || c = '\x7b' then
    if brackets.length ≥ maxBrackets then none else some (c :: brackets)
  else if c = ')' || c = ']' || c = '\x7d' then
    match brackets with
    | [] => none
    | b :: outer => if closing b = c then some outer else none
  else some brackets

/-- Whether an operator of one character can be read at all. -/
def isVisible (c : Char) : Bool := ' ' < c && c < '\x7f'

/-- A word: letters, digits and what lies above ASCII, which together must be an identifier. -/
def word? (cs : List Char) : Option String :=
  let s := String.ofList cs
  if cs.all (·.toNat < 0x80) || Text.isIdentifier (Text.ofString s) then some s else none

/-- The token at the begin of some characters that are no blank, with what is left of them and the
brackets that are then open. -/
def first (brackets : List Char) (cs : List Char) :
    Option (TokenKind × List Char × List Char) :=
  match stringPrefix? cs with
  | some n =>
    (quotedBody? (cs.drop n)).map fun r => (.string (stringToken (cs.take n) r.1), r.2, brackets)
  | none =>
    match cs with
    | [] => none
    | c :: rest =>
      if Numeral.isDigit c || (c = '.' && rest.head?.any Numeral.isDigit) then
        (Numeral.read cs).map fun r => (.number r.1, r.2, brackets)
      else if Numeral.isWordPart c then
        (word? (cs.takeWhile Numeral.isWordPart)).map fun w =>
          (.word w, cs.dropWhile Numeral.isWordPart, brackets)
      else
        match longOperators.find? (·.isPrefixOf cs) with
        | some o => some (.op (String.ofList o), cs.drop o.length, brackets)
        | none =>
          (nest brackets c).bind fun open' =>
            if isVisible c then some (.op (String.singleton c), rest, open') else none

/-- A token that has no extent. -/
def mark (pos : Pos) (kind : TokenKind) : Token := ⟨kind, pos, pos⟩

/-- The tokens after all characters. -/
def finish (l : Layout) : List Token :=
  if l.brackets.isEmpty then
    List.replicate (l.indents.length - 1) (mark l.pos .dedent) ++ [mark l.pos .ending]
  else [mark l.pos (.fault .cutOff)]

mutual

/-- The tokens from the begin of a line. -/
def scanLine (fuel : Nat) (l : Layout) (cs : List Char) : List Token :=
  match fuel with
  | 0 => [mark l.pos (.fault .malformed)]
  | fuel + 1 =>
    match margin 0 0 0 l.pos cs with
    | none => [mark l.pos (.fault .cutOff)]
    | some m =>
      let isBlank := m.rest.head? = some '#' || m.rest.head? = some '\n'
      if isBlank || !l.brackets.isEmpty then scanRest fuel isBlank { l with pos := m.pos } m.rest
      else
        match reindent m.wide m.narrow l.indents with
        | .error cause => [mark m.pos (.fault cause)]
        | .ok (kinds, indents) =>
          kinds.map (mark m.pos) ++ scanRest fuel false { l with pos := m.pos, indents := indents } m.rest

/-- The tokens from the midst of a line. `isBlank` says that the line gives no tokens. -/
def scanRest (fuel : Nat) (isBlank : Bool) (l : Layout) (cs : List Char) : List Token :=
  match fuel with
  | 0 => [mark l.pos (.fault .malformed)]
  | fuel + 1 =>
    match cs with
    | [] => finish l
    | ' ' :: rest => scanRest fuel isBlank { l with pos := l.pos.advance ' ' } rest
    | '\t' :: rest => scanRest fuel isBlank { l with pos := l.pos.advance '\t' } rest
    | '\x0c' :: rest => scanRest fuel isBlank { l with pos := l.pos.advance '\x0c' } rest
    | '#' :: rest =>
      let comment := rest.takeWhile (· ≠ '\n')
      scanRest fuel isBlank { l with pos := (l.pos.advance '#').advanceAll comment }
        (rest.drop comment.length)
    | '\n' :: rest =>
      let next := scanLine fuel { l with pos := l.pos.advance '\n' } rest
      if isBlank || !l.brackets.isEmpty then next else ⟨.newline, l.pos, l.pos⟩ :: next
    | '\\' :: '\n' :: [] => [mark l.pos (.fault .cutOff)]
    | '\\' :: '\n' :: rest =>
      scanRest fuel isBlank { l with pos := (l.pos.advance '\\').advance '\n' } rest
    | '\\' :: _ => [mark l.pos (.fault .cutOff)]
    | cs =>
      match first l.brackets cs with
      | none => [mark l.pos (.fault .malformed)]
      | some (kind, rest, brackets) =>
        let stop := l.pos.advanceAll (cs.take (cs.length - rest.length))
        ⟨kind, l.pos, stop⟩ :: scanRest fuel isBlank { l with pos := stop, brackets := brackets } rest

end

/-- The tokens of some characters whose lines end at line feeds. Each step from one character on takes
at least one, but for the step from the begin of a line into its midst. -/
def scanChars (cs : List Char) : List Token :=
  scanLine (2 * cs.length + 2) ⟨⟨1, 0⟩, [(0, 0)], []⟩ cs

/-- The tokens of a source. -/
def scan (source : List Char) : List Token := scanChars (closeLine (Text.Lines.unified source))

end Crosswalk.Token

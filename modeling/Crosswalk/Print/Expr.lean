import Crosswalk.Decimal.Layout
import Crosswalk.Print.Level
import Crosswalk.Print.StringLiteral

/-!
# The text of expressions

`Expr.text` writes an expression so that it reads back as the same expression, with no more parentheses
than its place asks for. Inside an interpolated string no backslash may be used. Two expressions
have no text, a whole number of too many digits and an interpolated value that needs a backslash;
`Expr.fault?` finds the first of them.
-/

namespace Crosswalk

/-- Why an expression has no text. -/
inductive PrintFault
  | tooManyDigits
  | backslash
  deriving DecidableEq

/-- The fault in words. -/
def PrintFault.message : PrintFault → String
  | .tooManyDigits =>
    "Exceeds the limit (4300 digits) for integer string conversion; use sys.set_int_max_str_digits() to increase the limit"
  | .backslash => "Unable to avoid backslash in f-string expression part"

/-- Whole numbers are written with at most this many digits. -/
def maxDigits : Nat := 4300

namespace Constant

/-- The text of a literal. `plain` forbids backslashes as far as that is possible. -/
def text (plain : Bool) : Constant → String
  | .none => "None"
  | .true => "True"
  | .false => "False"
  | .ellipsis => "..."
  | .int n => toString n
  | .float x => x.text ".0"
  | .imaginary x => x.text "" ++ "j"
  | .str t marked =>
    (if marked then "u" else "") ++ (if plain then Text.literal Quotes.all t else Text.quoted t)
  | .bytes b => quotedBytes b

/-- Whether an attribute of the literal is set off by a blank, as for `1 .real`. -/
def isWhole : Constant → Bool
  | .true | .false | .int _ => Bool.true
  | _ => Bool.false

/-- A literal that has no text. -/
def fault? : Constant → Option PrintFault
  | .int n => if pow10 maxDigits ≤ n then some .tooManyDigits else Option.none
  | _ => Option.none

end Constant

/-- Strings joined with a separator in between. -/
def joinWith (separator : String) : List String → String
  | [] => ""
  | [s] => s
  | s :: t :: rest => s ++ separator ++ joinWith separator (t :: rest)

/-- Items joined by commas; a single item is followed by one. -/
def itemsText : List String → String
  | [s] => s ++ ","
  | items => joinWith ", " items

/-- Text in parentheses if the place asks for a tighter level than `own`. -/
def parenthesized (own place : Level) (s : String) : String :=
  if place > own then "(" ++ s ++ ")" else s

/-- A parameter list: a slash ends the positional ones, and a star starts those given by name unless a
parameter for the rest does. -/
def paramsText (params : List (ParamKind × String)) : String :=
  let ofKind (k : ParamKind) : List String := (params.filter (·.1 = k)).map (·.2)
  let slash := if (ofKind .positionalOnly).isEmpty then [] else ["/"]
  let star := if (ofKind .rest).isEmpty && !(ofKind .keywordOnly).isEmpty then ["*"] else []
  joinWith ", " (ofKind .positionalOnly ++ slash ++ ofKind .positional ++ ofKind .rest ++ star ++
    ofKind .keywordOnly ++ ofKind .keywordRest)

/-- Literal text of an interpolated string, its braces doubled. -/
def doubleBraces (t : Text) : Text :=
  t.flatMap fun c => if c.val = 123 || c.val = 125 then [c, c] else [c]

/-- An interpolated value: its text, conversion and format in braces. -/
def valuePiece (expr : String) (conversion : Option Char) (format : Text) : Text :=
  Text.ofString "\x7b" ++ (if expr.toList.head? = some '\x7b' then Text.ofString " " else []) ++
    Text.ofString expr ++
    (match conversion with | some c => [.ofChar '!', .ofChar c] | none => []) ++
    format ++ Text.ofString "\x7d"

/-- The brackets of a collection. -/
def Collection.wrap : Collection → String → String
  | .list, s => "[" ++ s ++ "]"
  | .set, s => "\x7b" ++ s ++ "\x7d"
  | .generator, s => "(" ++ s ++ ")"

/-- A literal that sets its attributes off by a blank. -/
def Expr.isWhole : Expr → Bool
  | .constant c => c.isWhole
  | _ => false

/-- The level of the place in a subscript: a tuple needs no parentheses there unless it is empty. -/
def Expr.indexLevel : Expr → Level
  | .tuple (_ :: _) => Level.tuple
  | _ => Level.test

mutual

/-- The text of an expression in a place of the given level. -/
def Expr.text (plain : Bool) (place : Level) : Expr → String
  | .name id => id
  | .constant c => c.text plain
  | .interpolated pieces =>
    let parts := piecesText pieces
    if plain then "f" ++ Text.literal Quotes.all (parts.flatMap (·.1))
    else
      let (body, kinds) := Text.literalParts Quotes.all parts
      "f" ++ (kinds.headD ⟨'\'', false⟩).wrap body
  | .unary op operand => parenthesized op.level place (op.text ++ operand.text plain op.level)
  | .binary op left right =>
    parenthesized op.level place
      (left.text plain op.leftLevel ++ " " ++ op.text ++ " " ++ right.text plain op.rightLevel)
  | .boolean op operands =>
    parenthesized op.level place
      (joinWith (" " ++ op.text ++ " ") (operandsText plain (Level.next op.level) operands))
  | .compare first links =>
    parenthesized Level.compare place (first.text plain (Level.next Level.compare) ++ linksText plain links)
  | .conditional test body orelse =>
    parenthesized Level.test place
      (body.text plain (Level.next Level.test) ++ " if " ++ test.text plain (Level.next Level.test) ++
        " else " ++ orelse.text plain Level.test)
  | .named target value =>
    parenthesized Level.named place (target ++ " := " ++ value.text plain Level.atom)
  | .lambda params body =>
    parenthesized Level.test place
      ("lambda" ++ (if params.isEmpty then "" else " " ++ paramsText (paramTexts plain params)) ++ ": " ++
        body.text plain Level.test)
  | .await value => parenthesized Level.await place ("await " ++ value.text plain Level.atom)
  | .yield none => parenthesized Level.yield place "yield"
  | .yield (some value) => parenthesized Level.yield place ("yield " ++ value.text plain Level.atom)
  | .yieldFrom value => parenthesized Level.yield place ("yield from " ++ value.text plain Level.atom)
  | .starred value => "*" ++ value.text plain Level.bitOr
  | .attribute value attr =>
    value.text plain Level.atom ++ (if value.isWhole then " ." else ".") ++ attr
  | .subscript value index =>
    value.text plain Level.atom ++ "[" ++ index.text plain index.indexLevel ++ "]"
  | .slice lower upper step =>
    optionText plain "" lower ++ ":" ++ optionText plain "" upper ++ optionText plain ":" step
  | .call function arguments keywords =>
    function.text plain Level.atom ++ "(" ++
      joinWith ", " (textEach plain Level.test arguments ++ keywordsText plain keywords) ++ ")"
  | .tuple items =>
    let body := itemsText (textEach plain Level.test items)
    if items.isEmpty || place > Level.tuple then "(" ++ body ++ ")" else body
  | .list items => "[" ++ joinWith ", " (textEach plain Level.test items) ++ "]"
  | .set items =>
    "\x7b" ++ (if items.isEmpty then "*()" else joinWith ", " (textEach plain Level.test items)) ++ "\x7d"
  | .dict entries => "\x7b" ++ joinWith ", " (entriesText plain entries) ++ "\x7d"
  | .comprehension collection element clauses =>
    collection.wrap (element.text plain Level.test ++ clausesText plain clauses)
  | .dictComprehension key value clauses =>
    "\x7b" ++ key.text plain Level.test ++ ": " ++ value.text plain Level.test ++
      clausesText plain clauses ++ "\x7d"

/-- The texts of expressions in places of one level. -/
def textEach (plain : Bool) (place : Level) : List Expr → List String
  | [] => []
  | e :: es => e.text plain place :: textEach plain place es

/-- The operands of a chain of conditions: each needs a tighter level than the one before. -/
def operandsText (plain : Bool) (place : Level) : List Expr → List String
  | [] => []
  | e :: es => e.text plain place :: operandsText plain (Level.next place) es

/-- An optional expression after a mark. -/
def optionText (plain : Bool) (mark : String) : Option Expr → String
  | none => ""
  | some e => mark ++ e.text plain Level.test

/-- The links of a comparison chain. -/
def linksText (plain : Bool) : List Comparison → String
  | [] => ""
  | .mk op operand :: links =>
    " " ++ op.text ++ " " ++ operand.text plain (Level.next Level.compare) ++ linksText plain links

/-- Arguments given by name. -/
def keywordsText (plain : Bool) : List Keyword → List String
  | [] => []
  | .named name value :: rest => (name ++ "=" ++ value.text plain Level.test) :: keywordsText plain rest
  | .spread value :: rest => ("**" ++ value.text plain Level.test) :: keywordsText plain rest

/-- The items of a dict display. -/
def entriesText (plain : Bool) : List Entry → List String
  | [] => []
  | .pair key value :: rest =>
    (key.text plain Level.test ++ ": " ++ value.text plain Level.test) :: entriesText plain rest
  | .spread value :: rest => ("**" ++ value.text plain Level.bitOr) :: entriesText plain rest

/-- Parameters with their annotations and default values. -/
def paramTexts (plain : Bool) : List Param → List (ParamKind × String)
  | [] => []
  | .mk kind name note value :: rest =>
    let stars := match kind with
      | .rest => "*"
      | .keywordRest => "**"
      | _ => ""
    (kind, stars ++ name ++ optionText plain ": " note ++ optionText plain "=" value) ::
      paramTexts plain rest

/-- The loops of a comprehension. -/
def clausesText (plain : Bool) : List Clause → String
  | [] => ""
  | .mk isAsync target source conditions :: rest =>
    (if isAsync then " async for " else " for ") ++ target.text plain Level.tuple ++ " in " ++
      source.text plain (Level.next Level.test) ++ conditionsText plain conditions ++
      clausesText plain rest

/-- The conditions of a loop. -/
def conditionsText (plain : Bool) : List Expr → String
  | [] => ""
  | e :: es => " if " ++ e.text plain (Level.next Level.test) ++ conditionsText plain es

/-- The pieces of an interpolated string, each with whether it is literal text. -/
def piecesText : List Piece → List (Text × Bool)
  | [] => []
  | .literal t :: rest => (doubleBraces t, true) :: piecesText rest
  | .value e conversion :: rest =>
    (valuePiece (e.text true (Level.next Level.test)) conversion [], false) :: piecesText rest
  | .formatted e conversion format :: rest =>
    (valuePiece (e.text true (Level.next Level.test)) conversion
      (Text.ofString ":" ++ (piecesText format).flatMap (·.1)), false) :: piecesText rest

end

/-- An interpolated value whose text needs a backslash. -/
def backslashFault? (text : String) : Option PrintFault :=
  if text.toList.contains '\\' then some .backslash else none

mutual

/-- The first part of an expression, in the order of its text, that has no text. -/
def Expr.fault? : Expr → Option PrintFault
  | .name _ => none
  | .constant c => c.fault?
  | .interpolated pieces => piecesFault? pieces
  | .unary _ operand => operand.fault?
  | .binary _ left right => left.fault?.or right.fault?
  | .boolean _ operands => faultEach? operands
  | .compare first links => first.fault?.or (linksFault? links)
  | .conditional test body orelse => (body.fault?.or test.fault?).or orelse.fault?
  | .named _ value => value.fault?
  | .lambda params body => (paramsFault? params).or body.fault?
  | .await value => value.fault?
  | .yield value => optionFault? value
  | .yieldFrom value => value.fault?
  | .starred value => value.fault?
  | .attribute value _ => value.fault?
  | .subscript value index => value.fault?.or index.fault?
  | .slice lower upper step => ((optionFault? lower).or (optionFault? upper)).or (optionFault? step)
  | .call function arguments keywords =>
    (function.fault?.or (faultEach? arguments)).or (keywordsFault? keywords)
  | .tuple items => faultEach? items
  | .list items => faultEach? items
  | .set items => faultEach? items
  | .dict entries => entriesFault? entries
  | .comprehension _ element clauses => element.fault?.or (clausesFault? clauses)
  | .dictComprehension key value clauses => (key.fault?.or value.fault?).or (clausesFault? clauses)

/-- The first fault of some expressions. -/
def faultEach? : List Expr → Option PrintFault
  | [] => none
  | e :: es => e.fault?.or (faultEach? es)

/-- The fault of an optional expression. -/
def optionFault? : Option Expr → Option PrintFault
  | none => none
  | some e => e.fault?

/-- The first fault of some links. -/
def linksFault? : List Comparison → Option PrintFault
  | [] => none
  | .mk _ operand :: links => operand.fault?.or (linksFault? links)

/-- The first fault of some arguments given by name. -/
def keywordsFault? : List Keyword → Option PrintFault
  | [] => none
  | .named _ value :: rest => value.fault?.or (keywordsFault? rest)
  | .spread value :: rest => value.fault?.or (keywordsFault? rest)

/-- The first fault of some dict items. -/
def entriesFault? : List Entry → Option PrintFault
  | [] => none
  | .pair key value :: rest => (key.fault?.or value.fault?).or (entriesFault? rest)
  | .spread value :: rest => value.fault?.or (entriesFault? rest)

/-- The first fault of some parameters. -/
def paramsFault? : List Param → Option PrintFault
  | [] => none
  | .mk _ _ note value :: rest =>
    ((optionFault? note).or (optionFault? value)).or (paramsFault? rest)

/-- The first fault of some loops. -/
def clausesFault? : List Clause → Option PrintFault
  | [] => none
  | .mk _ target source conditions :: rest =>
    ((target.fault?.or source.fault?).or (faultEach? conditions)).or (clausesFault? rest)

/-- The first fault of some pieces; a value is faulty also if its text needs a backslash. -/
def piecesFault? : List Piece → Option PrintFault
  | [] => none
  | .literal _ :: rest => piecesFault? rest
  | .value e _ :: rest =>
    (e.fault?.or (backslashFault? (e.text true (Level.next Level.test)))).or (piecesFault? rest)
  | .formatted e _ format :: rest =>
    ((e.fault?.or (backslashFault? (e.text true (Level.next Level.test)))).or
      (piecesFault? format)).or (piecesFault? rest)

end

namespace Expr

/-- The text of an expression that stands by itself. -/
def printed (e : Expr) : String := e.text false Level.test

/-- The text of an expression that stands by itself, unless it has none. -/
def print (e : Expr) : Except PrintFault String :=
  match e.fault? with
  | some fault => .error fault
  | none => .ok e.printed

end Expr

end Crosswalk

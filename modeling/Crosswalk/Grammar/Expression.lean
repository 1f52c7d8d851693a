import Crosswalk.Grammar.Parameter

/-!
# Reading expressions

The rules for expressions, from the tightest, an atom, to the loosest. Each rule reads the parts that
bind tighter by the rule before it, and what may hold any expression by the grammar it is given.
-/

namespace Crosswalk.Grammar

open Reader

/-- Whether a token can begin an expression. -/
def startsExpression : TokenKind → Bool
  | .word w =>
    !Text.reservedWords.contains w || ["None", "True", "False", "not", "lambda", "await"].contains w
  | .number _ => true
  | .string _ => true
  | .op o => ["(", "[", "\x7b", "-", "+", "~", "..."].contains o
  | _ => false

/-- Whether a token can begin an expression or a starred one. -/
def startsItem (k : TokenKind) : Bool := startsExpression k || isOp "*" k

/-- A tuple if a comma follows the first item, else that item. -/
def tupleAfter (g : Grammar) (item : Reader Expr) (first : Expr) : Reader Expr := do
  if ← atOp "," then return .tuple (first :: (← moreItems startsItem item g.limit)) else return first

/-! ## Arithmetic -/

/-- Goes on after the left operand of operators that group to the left. -/
def chain (op? : TokenKind → Option BinaryOp) (operand : Reader Expr) (limit : Nat) (left : Expr) :
    Reader Expr :=
  match limit with
  | 0 => pure left
  | limit + 1 => do
    match op? (← peek).kind with
    | some op =>
      advance
      let right ← operand
      chain op? operand limit (.binary op left right)
    | none => return left

/-- Operands between operators that group to the left. -/
def leftGrouping (g : Grammar) (op? : TokenKind → Option BinaryOp) (operand : Reader Expr) :
    Reader Expr := do
  chain op? operand g.limit (← operand)

/-- The operator of a token, out of a list. -/
def binaryOp? (ops : List (String × BinaryOp)) : TokenKind → Option BinaryOp
  | .op o => ops.lookup o
  | _ => none

/-- An awaited expression, or one that is not. -/
def awaited (g : Grammar) (primary : Reader Expr) : Reader Expr := do
  if ← acceptWord "await" then return .await (← g.primary) else primary

/-- A power: its exponent may have a sign. -/
def power (g : Grammar) (primary : Reader Expr) : Reader Expr := do
  let base ← awaited g primary
  if ← acceptOp "**" then return .binary .pow base (← g.factor) else return base

/-- An operand with signs in front. -/
def signed (g : Grammar) (primary : Reader Expr) : Reader Expr := do
  if ← acceptOp "+" then return .unary .plus (← g.factor)
  if ← acceptOp "-" then return .unary .minus (← g.factor)
  if ← acceptOp "~" then return .unary .invert (← g.factor)
  power g primary

/-- Products and quotients. -/
def product (g : Grammar) (primary : Reader Expr) : Reader Expr :=
  leftGrouping g
    (binaryOp? [("*", .mul), ("/", .div), ("//", .floorDiv), ("%", .mod), ("@", .matMul)])
    (signed g primary)

/-- Sums and differences. -/
def sum (g : Grammar) (primary : Reader Expr) : Reader Expr :=
  leftGrouping g (binaryOp? [("+", .add), ("-", .sub)]) (product g primary)

/-- Shifts. -/
def shifted (g : Grammar) (primary : Reader Expr) : Reader Expr :=
  leftGrouping g (binaryOp? [("<<", .shiftLeft), (">>", .shiftRight)]) (sum g primary)

/-- Bits that two numbers share. -/
def bitAnd (g : Grammar) (primary : Reader Expr) : Reader Expr :=
  leftGrouping g (binaryOp? [("&", .bitAnd)]) (shifted g primary)

/-- Bits that one of two numbers has. -/
def bitXor (g : Grammar) (primary : Reader Expr) : Reader Expr :=
  leftGrouping g (binaryOp? [("^", .bitXor)]) (bitAnd g primary)

/-- All arithmetic. -/
def bitOr (g : Grammar) (primary : Reader Expr) : Reader Expr :=
  leftGrouping g (binaryOp? [("|", .bitOr)]) (bitXor g primary)

/-! ## Conditions -/

/-- Takes a comparison operator, which may be of two words. -/
def compareOp : Reader (Option CompareOp) := do
  let taken (op : CompareOp) : Reader (Option CompareOp) := do
    advance
    return some op
  match (← peek).kind with
  | .op "==" => taken .eq
  | .op "!=" => taken .notEq
  | .op "<" => taken .lt
  | .op "<=" => taken .le
  | .op ">" => taken .gt
  | .op ">=" => taken .ge
  | .word "in" => taken .in
  | .word "is" =>
    advance
    if ← acceptWord "not" then return some .isNot else return some .is
  | .word "not" =>
    advance
    expectWord "in"
    return some .notIn
  | _ => return none

/-- A chain of comparisons. -/
def comparison (g : Grammar) (primary : Reader Expr) : Reader Expr := do
  let first ← bitOr g primary
  let links ← many (do
    match ← compareOp with
    | some op => return some (Comparison.mk op (← bitOr g primary))
    | none => return none) g.limit
  if links.isEmpty then return first else return .compare first links

/-- A condition or its negation. -/
def negated (g : Grammar) (primary : Reader Expr) : Reader Expr := do
  if ← acceptWord "not" then return .unary .not (← g.inversion) else comparison g primary

/-- Conditions joined by one word. -/
def joined (g : Grammar) (word : String) (op : BoolOp) (operand : Reader Expr) : Reader Expr := do
  let first ← operand
  let more ← many (optional (acceptWord word) operand) g.limit
  if more.isEmpty then return first else return .boolean op (first :: more)

/-- Conditions of which one has to hold. -/
def alternatives (g : Grammar) (primary : Reader Expr) : Reader Expr :=
  joined g "or" .or (joined g "and" .and (negated g primary))

/-- An item that may be starred. -/
def starredOr (g : Grammar) (primary plain : Reader Expr) : Reader Expr := do
  if ← acceptOp "*" then return .starred (← bitOr g primary) else plain

/-- A lambda, after its word. -/
def lambda (g : Grammar) : Reader Expr := do
  let ps ← params g false g.expression
  expectOp ":"
  return .lambda ps (← g.expression)

/-- Any expression that needs no parentheses as an argument. -/
def full (g : Grammar) (primary : Reader Expr) : Reader Expr := do
  if ← acceptWord "lambda" then lambda g
  else
    let body ← alternatives g primary
    if ← acceptWord "if" then
      let test ← g.disjunction
      expectWord "else"
      return .conditional test body (← g.expression)
    else return body

/-- An expression that may be given a name. -/
def namedOr (g : Grammar) (plain : Reader Expr) : Reader Expr := do
  if ← atNameThen ":=" then
    let target ← name
    expectOp ":="
    return .named target (← g.expression)
  else plain

/-! ## What stands in brackets -/

/-- An item of a display or of parentheses. -/
def item (g : Grammar) : Reader Expr := do
  if ← acceptOp "*" then return .starred (← g.bitOr g.primary) else namedOr g g.expression

/-- Expressions with commas between them as they may stand without parentheses. -/
def expressions (g : Grammar) : Reader Expr := do
  let item : Reader Expr := starredOr g g.primary g.expression
  tupleAfter g item (← item)

/-- The value that `yield` hands out, after its word. -/
def yielded (g : Grammar) : Reader Expr := do
  if ← acceptWord "from" then return .yieldFrom (← g.expression)
  if startsItem (← peek).kind then return .yield (some (← expressions g)) else return .yield none

/-- A target of an assignment in a loop or a `with`. -/
def target (g : Grammar) : Reader Expr := do
  let e ← starTarget
  if e.isStarTarget then return e else unexpected
where
  /-- What is read for a target, before it is checked. -/
  starTarget : Reader Expr := do
    if ← acceptOp "*" then return .starred (← g.primary) else g.primary

/-- The targets of a loop. -/
def targets (g : Grammar) : Reader Expr := do
  tupleAfter g (target g) (← target g)

/-- Whether a loop of a comprehension comes next. -/
def atClause : Reader Bool := do
  if ← atWord "for" then return true else atWord "async"

/-- A loop of a comprehension. -/
def clause (g : Grammar) : Reader Clause := do
  let isAsync ← acceptWord "async"
  expectWord "for"
  let target ← targets g
  expectWord "in"
  let source ← g.disjunction
  return .mk isAsync target source (← many (optional (acceptWord "if") g.disjunction) g.limit)

/-- The loops of a comprehension. -/
def clauses (g : Grammar) : Reader (List Clause) := many (optional atClause (clause g)) g.limit

/-- Whether an expression is starred. -/
def isStarred : Expr → Bool
  | .starred _ => true
  | _ => false

/-- What stands in parentheses, after the opening one. -/
def parenthesis (g : Grammar) : Reader Expr := do
  if ← acceptOp ")" then return .tuple []
  if ← acceptWord "yield" then
    let e ← yielded g
    expectOp ")"
    return e
  let first ← item g
  if ← atOp "," then
    let more ← moreItems startsItem (item g) g.limit
    expectOp ")"
    return .tuple (first :: more)
  if isStarred first then unexpected
  if ← atClause then
    let cs ← clauses g
    expectOp ")"
    return .comprehension .generator first cs
  expectOp ")"
  return first

/-- A list, after its opening bracket. -/
def listDisplay (g : Grammar) : Reader Expr := do
  if ← acceptOp "]" then return .list []
  let first ← item g
  if !isStarred first && (← atClause) then
    let cs ← clauses g
    expectOp "]"
    return .comprehension .list first cs
  let more ← moreItems startsItem (item g) g.limit
  expectOp "]"
  return .list (first :: more)

/-- An item of a dict display. -/
def entry (g : Grammar) : Reader Entry := do
  if ← acceptOp "**" then return .spread (← g.bitOr g.primary)
  let key ← g.expression
  expectOp ":"
  return .pair key (← g.expression)

/-- Whether a token can begin an item of a dict display. -/
def startsEntry (k : TokenKind) : Bool := startsExpression k || isOp "**" k

/-- A dict, after its first item. -/
def dictAfter (g : Grammar) (first : Entry) : Reader Expr := do
  let more ← moreItems startsEntry (entry g) g.limit
  expectOp "\x7d"
  return .dict (first :: more)

/-- A dict or a set, after its opening brace. -/
def braces (g : Grammar) : Reader Expr := do
  if ← acceptOp "\x7d" then return .dict []
  if ← atOp "**" then return ← dictAfter g (← entry g)
  let isNamed ← atNameThen ":="
  let first ← item g
  if !isNamed && !isStarred first && (← acceptOp ":") then
    let value ← g.expression
    if ← atClause then
      let cs ← clauses g
      expectOp "\x7d"
      return .dictComprehension first value cs
    dictAfter g (.pair first value)
  else if !isStarred first && (← atClause) then
    let cs ← clauses g
    expectOp "\x7d"
    return .comprehension .set first cs
  else
    let more ← moreItems startsItem (item g) g.limit
    expectOp "\x7d"
    return .set (first :: more)

/-! ## Atoms -/

/-- Reads the expression in the braces of an interpolated string: it is read as if it stood in
parentheses. -/
def embedded (g : Grammar) (source : List Char) : Option Expr :=
  match g.expression.run ⟨Token.scanChars (Token.closeLine ('(' :: source ++ [')'])), ⟨1, 0⟩⟩ with
  | .ok ⟨(e, _), _⟩ => some e
  | .error _ => none

/-- The pieces of a string literal. -/
def stringPieces (g : Grammar) (s : StringToken) : Option (List Piece) :=
  if s.isInterpolated then Interpolation.read (embedded g) s.isRaw s.body
  else (Interpolation.literalValue s.isRaw s.body).map fun t => Interpolation.addLiteral t []

/-- The literal text of pieces. -/
def literalText : List Piece → Text
  | .literal t :: rest => t ++ literalText rest
  | _ => []

/-- The value of string literals side by side. Byte strings do not mix with others. -/
def stringValue (g : Grammar) (ss : List StringToken) : Option Expr :=
  if ss.all (·.isBytes) then
    (ss.mapM fun s => Escape.decodeBytes s.isRaw s.body).map fun bs => .constant (.bytes bs.flatten)
  else if ss.any (·.isBytes) then none
  else
    (ss.mapM (stringPieces g)).map fun pieces =>
      let all := pieces.foldr Interpolation.join []
      if ss.any (·.isInterpolated) then .interpolated all
      else .constant (.str (literalText all) (ss.head?.any (·.isMarked)))

/-- Takes a string token. -/
def stringToken : Reader (Option StringToken) := do
  match (← peek).kind with
  | .string s => advance; return some s
  | _ => return none

/-- String literals side by side. -/
def strings (g : Grammar) : Reader Expr := do
  let ss ← many stringToken g.limit
  match stringValue g ss with
  | some e => return e
  | none => reject

/-- The constants that are words. -/
def constantWord? : String → Option Constant
  | "None" => some .none
  | "True" => some .true
  | "False" => some .false
  | _ => none

/-- A name, a literal, or something in brackets. -/
def atom (g : Grammar) : Reader Expr := do
  match (← peek).kind with
  | .word w =>
    match constantWord? w with
    | some c => advance; return .constant c
    | none => return .name (← name)
  | .number (some c) => advance; return .constant c
  | .number none => reject
  | .string _ => strings g
  | .op "(" => advance; parenthesis g
  | .op "[" => advance; listDisplay g
  | .op "\x7b" => advance; braces g
  | .op "..." => advance; return .constant .ellipsis
  | _ => unexpected

/-! ## Calls and subscripts -/

/-- How far the arguments of a call have come: after one given by name no plain one may follow, and
after a record of such no starred one either. -/
inductive ArgumentStage
  | positional
  | named
  | spread
  deriving DecidableEq

/-- The arguments of a call from here on, up to the closing parenthesis. `mayGenerate` says that a
generator without parentheses of its own may stand here; it has to be the only argument. -/
def argumentsFrom (g : Grammar) (mayGenerate : Bool) (stage : ArgumentStage) (limit : Nat) :
    Reader (List Expr × List Keyword) :=
  match limit with
  | 0 => reject
  | limit + 1 => do
    let rest (stage : ArgumentStage) : Reader (List Expr × List Keyword) := do
      if ← acceptOp "," then argumentsFrom g false stage limit
      else
        expectOp ")"
        return ([], [])
    if ← acceptOp ")" then return ([], [])
    if ← acceptOp "**" then
      let value ← g.expression
      let (arguments, keywords) ← rest .spread
      return (arguments, .spread value :: keywords)
    if ← atNameThen "=" then
      let n ← name
      expectOp "="
      let value ← g.expression
      let (arguments, keywords) ← rest (if stage = .positional then .named else stage)
      return (arguments, .named n value :: keywords)
    if stage ≠ .spread && (← acceptOp "*") then
      let value ← g.expression
      let (arguments, keywords) ← rest stage
      return (.starred value :: arguments, keywords)
    if stage = .positional then
      let value ← namedOr g g.expression
      if mayGenerate && (← atClause) then
        let cs ← clauses g
        expectOp ")"
        return ([.comprehension .generator value cs], [])
      let (arguments, keywords) ← rest stage
      return (value :: arguments, keywords)
    unexpected

/-- The arguments of a call, after the opening parenthesis. -/
def arguments (g : Grammar) (mayGenerate : Bool) : Reader (List Expr × List Keyword) :=
  argumentsFrom g mayGenerate .positional g.limit

/-- A slice or an index. -/
def slice (g : Grammar) : Reader Expr := do
  let bound : Reader (Option Expr) := do
    if startsExpression (← peek).kind then return some (← g.expression) else return none
  let isNamed ← atNameThen ":="
  let lower ← if ← atOp ":" then pure none else some <$> namedOr g g.expression
  if !isNamed && (← acceptOp ":") then
    let upper ← bound
    let step ← if ← acceptOp ":" then bound else pure none
    return .slice lower upper step
  else
    match lower with
    | some e => return e
    | none => unexpected

/-- A slice, an index, or a starred index. -/
def starredSlice (g : Grammar) : Reader Expr := do
  if ← acceptOp "*" then return .starred (← g.expression) else slice g

/-- What stands in a subscript, after the opening bracket. -/
def subscript (g : Grammar) : Reader Expr := do
  let first ← starredSlice g
  let index ←
    if ← atOp "," then
      let more ← moreItems (fun k => startsItem k || isOp ":" k) (starredSlice g) g.limit
      pure (Expr.tuple (first :: more))
    else if isStarred first then pure (.tuple [first])
    else pure first
  expectOp "]"
  return index

/-- Attributes, calls and subscripts after an expression. -/
def trailers (g : Grammar) (limit : Nat) (e : Expr) : Reader Expr :=
  match limit with
  | 0 => pure e
  | limit + 1 => do
    if ← acceptOp "." then
      let attr ← name
      trailers g limit (.attribute e attr)
    else if ← acceptOp "(" then
      let (arguments, keywords) ← arguments g true
      trailers g limit (.call e arguments keywords)
    else if ← acceptOp "[" then
      let index ← subscript g
      trailers g limit (.subscript e index)
    else return e

/-- An atom with its attributes, calls and subscripts. -/
def primaryRule (g : Grammar) : Reader Expr := do
  trailers g g.limit (← atom g)

/-- An operand of arithmetic. -/
def factorRule (g : Grammar) : Reader Expr := signed g (primaryRule g)

/-- A condition. -/
def inversionRule (g : Grammar) : Reader Expr := negated g (primaryRule g)

/-- Conditions joined by words. -/
def disjunctionRule (g : Grammar) : Reader Expr := alternatives g (primaryRule g)

/-- An expression. -/
def expressionRule (g : Grammar) : Reader Expr := full g (primaryRule g)

end Crosswalk.Grammar

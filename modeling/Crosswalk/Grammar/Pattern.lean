import Crosswalk.Grammar.Expression

/-!
# Reading patterns

The rules for the patterns of a `match`.
-/

namespace Crosswalk.Grammar

open Reader

/-- Whether a token can begin a pattern or a starred one. -/
def startsPattern : TokenKind → Bool
  | .word w => !Text.reservedWords.contains w || (constantWord? w).isSome
  | .number _ => true
  | .string _ => true
  | .op o => ["(", "[", "\x7b", "-", "*"].contains o
  | _ => false

/-- Whether the next token is the low line that matches anything. -/
def atWildcard : Reader Bool := atWord "_"

/-- A name to bind: no low line, and nothing after it that would make it something else. -/
def binding : Reader String := do
  if ← atWildcard then unexpected
  let n ← name
  if (← atOp ".") || (← atOp "(") || (← atOp "=") then unexpected else return n

/-- A number without a sign. -/
def numeral : Reader Constant := do
  match (← peek).kind with
  | .number (some c) => advance; return c
  | .number none => reject
  | _ => unexpected

/-- Whether a number is imaginary. -/
def isImaginary : Constant → Bool
  | .imaginary _ => true
  | _ => false

/-- A number, perhaps negative, perhaps complex. -/
def numberPattern : Reader Expr := do
  let isNegative ← acceptOp "-"
  let c ← numeral
  let real : Expr := if isNegative then .unary .minus (.constant c) else .constant c
  let withPart (op : BinaryOp) : Reader Expr := do
    let part ← numeral
    if isImaginary c || !isImaginary part then reject
    return .binary op real (.constant part)
  if ← acceptOp "+" then withPart .add
  else if ← acceptOp "-" then withPart .sub
  else return real

/-- The attributes after a name. -/
def dotted (limit : Nat) (e : Expr) : Reader Expr :=
  match limit with
  | 0 => pure e
  | limit + 1 => do
    if ← acceptOp "." then
      let attr ← name
      dotted limit (.attribute e attr)
    else return e

/-- A pattern or a star with what it binds. -/
def starredPattern (g : Grammar) : Reader Pattern := do
  if ← acceptOp "*" then
    if ← acceptWord "_" then return .star none
    return .star (some (← binding))
  else g.pattern

/-- Whether a pattern is a star. -/
def isStarPattern : Pattern → Bool
  | .star _ => true
  | _ => false

/-- More patterns after commas. -/
def morePatterns (g : Grammar) : Reader (List Pattern) :=
  moreItems startsPattern (starredPattern g) g.limit

/-- A sequence if a comma follows the first pattern, else that pattern, which then is no star. -/
def sequenceAfter (g : Grammar) (first : Pattern) : Reader Pattern := do
  if ← atOp "," then return .sequence (first :: (← morePatterns g))
  if isStarPattern first then unexpected else return first

/-- What stands in parentheses, after the opening one. -/
def parenthesizedPattern (g : Grammar) : Reader Pattern := do
  if ← acceptOp ")" then return .sequence []
  let p ← sequenceAfter g (← starredPattern g)
  expectOp ")"
  return p

/-- What stands in brackets, after the opening one. -/
def listPattern (g : Grammar) : Reader Pattern := do
  if ← acceptOp "]" then return .sequence []
  let first ← starredPattern g
  let more ← morePatterns g
  expectOp "]"
  return .sequence (first :: more)

/-- A key of a mapping: a literal or a dotted name. -/
def mappingKey (g : Grammar) : Reader Expr := do
  match (← peek).kind with
  | .string _ => strings g
  | .word w =>
    match constantWord? w with
    | some c => advance; return .constant c
    | none =>
      let n ← name
      if ← atOp "." then dotted g.limit (.name n) else unexpected
  | _ => numberPattern

/-- The items of a mapping from here on: the pairs, and the name for the rest. -/
def mappingFrom (g : Grammar) (limit : Nat) : Reader (List (Expr × Pattern) × Option String) :=
  match limit with
  | 0 => reject
  | limit + 1 => do
    if ← acceptOp "\x7d" then return ([], none)
    if ← acceptOp "**" then
      let rest ← binding
      let _ ← acceptOp ","
      expectOp "\x7d"
      return ([], some rest)
    let key ← mappingKey g
    expectOp ":"
    let value ← g.pattern
    if ← acceptOp "," then
      let (more, rest) ← mappingFrom g limit
      return ((key, value) :: more, rest)
    expectOp "\x7d"
    return ([(key, value)], none)

/-- The arguments of a class pattern from here on: the positional ones, and those given by name. -/
def instanceFrom (g : Grammar) (isPositional : Bool) (limit : Nat) :
    Reader (List Pattern × List (String × Pattern)) :=
  match limit with
  | 0 => reject
  | limit + 1 => do
    let rest (isPositional : Bool) : Reader (List Pattern × List (String × Pattern)) := do
      if ← acceptOp "," then instanceFrom g isPositional limit
      else
        expectOp ")"
        return ([], [])
    if ← acceptOp ")" then return ([], [])
    if ← atNameThen "=" then
      let n ← name
      expectOp "="
      let p ← g.pattern
      let (positional, named) ← rest false
      return (positional, (n, p) :: named)
    if isPositional then
      let p ← g.pattern
      let (positional, named) ← rest true
      return (p :: positional, named)
    unexpected

/-- A pattern that begins with a name: a dotted name, a class with arguments, or a name to bind. -/
def namePattern (g : Grammar) : Reader Pattern := do
  let n ← name
  let e ← dotted g.limit (.name n)
  if ← acceptOp "(" then
    let (positional, named) ← instanceFrom g true g.limit
    return .instance e positional (named.map (·.1)) (named.map (·.2))
  if ← atOp "=" then unexpected
  match e with
  | .name _ => return .capture n
  | _ => return .value e

/-- A pattern that binds tighter than a bar. -/
def closedPattern (g : Grammar) : Reader Pattern := do
  if ← acceptWord "_" then return .wildcard
  match (← peek).kind with
  | .string _ => return .value (← strings g)
  | .word w =>
    match constantWord? w with
    | some c => advance; return .singleton c
    | none => namePattern g
  | .op "(" => advance; parenthesizedPattern g
  | .op "[" => advance; listPattern g
  | .op "\x7b" =>
    advance
    let (pairs, rest) ← mappingFrom g g.limit
    return .mapping (pairs.map (·.1)) (pairs.map (·.2)) rest
  | _ => return .value (← numberPattern)

/-- A pattern. -/
def patternRule (g : Grammar) : Reader Pattern := do
  let first ← closedPattern g
  let more ← many (optional (acceptOp "|") (closedPattern g)) g.limit
  let p := if more.isEmpty then first else .choice (first :: more)
  if ← acceptWord "as" then return .alias p (← binding) else return p

/-- The pattern of a case, which may be a sequence without brackets. -/
def casePattern (g : Grammar) : Reader Pattern := do
  sequenceAfter g (← starredPattern g)

end Crosswalk.Grammar

import Crosswalk.Grammar.Pattern

/-!
# Reading statements

The rules for simple statements, for the blocks, and for the suites in them.
-/

namespace Crosswalk.Grammar

open Reader

/-! ## Simple statements -/

/-- Where the expression that comes next begins, without the parentheses around it. -/
def innerStart : Reader Pos := do
  match (← cursor).tokens.find? fun t => !isOp "(" t.kind with
  | some t => return t.start
  | none => here

/-- What may be assigned: expressions with commas between them, or a `yield`. -/
def assignable (g : Grammar) : Reader Expr := do
  if ← acceptWord "yield" then yielded g else expressions g

/-- Goes on after the targets read so far, at an equals sign. -/
def assignment (g : Grammar) (targets : List Expr) (limit : Nat) : Reader Simple :=
  match limit with
  | 0 => reject
  | limit + 1 => do
    expectOp "="
    let valueAt ← innerStart
    let value ← assignable g
    if ← atOp "=" then
      if value.isStarTarget then assignment g (targets ++ [value]) limit else unexpected
    else return .assign targets value valueAt

/-- Goes on after the target, at the colon before an annotation. -/
def annotated (g : Grammar) (target : Expr) (isBare : Bool) : Reader Simple := do
  expectOp ":"
  let note ← g.expression
  if ← acceptOp "=" then
    let valueAt ← innerStart
    return .annotated target isBare note (some (← assignable g)) valueAt
  else return .annotated target isBare note none ⟨0, 0⟩

/-- The operators that assign what they compute. -/
def augmentedOps : List (String × BinaryOp) :=
  [("+=", .add), ("-=", .sub), ("*=", .mul), ("@=", .matMul), ("/=", .div), ("%=", .mod),
   ("&=", .bitAnd), ("|=", .bitOr), ("^=", .bitXor), ("<<=", .shiftLeft), (">>=", .shiftRight),
   ("**=", .pow), ("//=", .floorDiv)]

/-- A statement that begins with an expression. -/
def expressionStatement (g : Grammar) : Reader Simple := do
  let isParenthesized ← atOp "("
  let e ← assignable g
  if ← atOp "=" then
    if e.isStarTarget then assignment g [e] g.limit else unexpected
  else if ← atOp ":" then
    if e.isPlace then annotated g e (!isParenthesized) else unexpected
  else
    match binaryOp? augmentedOps (← peek).kind with
    | some op =>
      if e.isPlace then
        advance
        return .augmented e op (← assignable g)
      else unexpected
    | none => return .expr e

/-- A dotted name of a module. -/
def moduleName (g : Grammar) : Reader String := do
  let first ← name
  let more ← many (optional (acceptOp ".") name) g.limit
  return joinWith "." (first :: more)

/-- An imported name with what it is called here. -/
def imported (source : Reader String) : Reader Alias := do
  let n ← source
  return ⟨n, ← optional (acceptWord "as") name⟩

/-- Takes the dots in front of a module's name and counts them. -/
def dots (limit : Nat) : Reader Nat :=
  match limit with
  | 0 => pure 0
  | limit + 1 => do
    if ← acceptOp "." then return (← dots limit) + 1
    if ← acceptOp "..." then return (← dots limit) + 3
    return 0

/-- The names that are imported from a module. -/
def importedNames (g : Grammar) : Reader (List Alias) := do
  if ← acceptOp "*" then return [⟨"*", none⟩]
  if ← acceptOp "(" then
    let first ← imported name
    let more ← moreItems (fun k => (nameOf? k).isSome) (imported name) g.limit
    expectOp ")"
    return first :: more
  separated (imported name) g.limit

/-- An import from a module, after its first word. -/
def importFrom (g : Grammar) : Reader Simple := do
  let level ← dots g.limit
  let source ← if level > 0 && (← atWord "import") then pure "" else moduleName g
  expectWord "import"
  return .importsFrom level source (← importedNames g)

/-- What is raised, after the word. -/
def raised (g : Grammar) : Reader Simple := do
  if startsExpression (← peek).kind then
    let e ← g.expression
    return .raise (some e) (← optional (acceptWord "from") g.expression)
  else return .raise none none

/-- Something to delete. -/
def deleted (g : Grammar) : Reader Expr := do
  let e ← g.primary
  if e.isDeletable then return e else unexpected

/-- What is deleted, after the word. Nothing else may follow on the line. -/
def deletion (g : Grammar) : Reader Simple := do
  let first ← deleted g
  let more ← moreItems startsExpression (deleted g) g.limit
  match (← peek).kind with
  | .newline => return .del (first :: more)
  | k => if isOp ";" k then return .del (first :: more) else unexpected

/-- A statement without suites. -/
def simple (g : Grammar) : Reader Simple := do
  let k := (← peek).kind
  if isWord "return" k then
    advance
    if startsItem (← peek).kind then return .ret (some (← expressions g)) else return .ret none
  else if isWord "import" k then
    advance
    return .imports (← separated (imported (moduleName g)) g.limit)
  else if isWord "from" k then
    advance
    importFrom g
  else if isWord "raise" k then
    advance
    raised g
  else if isWord "pass" k then
    advance
    return .pass
  else if isWord "del" k then
    advance
    deletion g
  else if isWord "assert" k then
    advance
    let test ← g.expression
    return .assert test (← optional (acceptOp ",") g.expression)
  else if isWord "break" k then
    advance
    return .break
  else if isWord "continue" k then
    advance
    return .continue
  else if isWord "global" k then
    advance
    return .global (← separated name g.limit)
  else if isWord "nonlocal" k then
    advance
    return .nonlocal (← separated name g.limit)
  else expressionStatement g

/-- Takes the end of a line. -/
def expectNewline : Reader Unit := do
  match (← peek).kind with
  | .newline => advance
  | _ => unexpected

/-- The statements of one line, with semicolons between them. -/
def simpleLine (g : Grammar) (limit : Nat) : Reader (List Stmt) :=
  match limit with
  | 0 => reject
  | limit + 1 => do
    let start ← here
    let content ← simple g
    let s := Stmt.simple (.ofPos start (← lastEnd)) content
    if ← acceptOp ";" then
      match (← peek).kind with
      | .newline => advance; return [s]
      | _ => return s :: (← simpleLine g limit)
    else
      expectNewline
      return [s]

/-! ## Suites -/

/-- Fails because a suite is missing. A character further on that is never right goes first. -/
def missingSuite {α : Type} : Reader α := do
  let _ ← peek
  match (← cursor).tokens.getLast? with
  | some ⟨.fault .malformed, _, _⟩ => fail ⟨.malformed, true⟩
  | _ => fail ⟨.indentation, true⟩

/-- Takes the begin of an indented suite. -/
def expectIndent : Reader Unit := do
  match (← peek).kind with
  | .indent => advance
  | _ => missingSuite

/-- The suite of a block: after the colon, either the rest of the line or indented lines. -/
def suiteOf (g : Grammar) : Reader (List Stmt) := do
  expectOp ":"
  match (← peek).kind with
  | .newline =>
    advance
    expectIndent
    g.suite
  | _ => simpleLine g g.limit

/-- The suite after a word, if that comes next; else nothing. -/
def suiteAfter (g : Grammar) (word : String) : Reader (List Stmt) := do
  if ← acceptWord word then suiteOf g else return []

/-! ## Blocks -/

/-- An expression that may be given a name, as the conditions of blocks are. -/
def condition (g : Grammar) : Reader Expr := namedOr g g.expression

/-- The `elif` parts that come next, each with where it begins, and then the `else` suite. -/
def elifs (g : Grammar) (limit : Nat) : Reader (List (Pos × Expr × List Stmt) × List Stmt) :=
  match limit with
  | 0 => reject
  | limit + 1 => do
    let start ← here
    if ← acceptWord "elif" then
      let test ← condition g
      let body ← suiteOf g
      let (parts, orelse) ← elifs g limit
      return ((start, test, body) :: parts, orelse)
    else return ([], ← suiteAfter g "else")

/-- The `else` suite that stands for `elif` parts: an `if` for each, inside the one before. -/
def nestElifs (stop : Pos) (orelse : List Stmt) : List (Pos × Expr × List Stmt) → List Stmt
  | [] => orelse
  | (start, test, body) :: parts =>
    [.block (.ofPos start stop) (.ifThen test) body [] (nestElifs stop orelse parts) []]

/-- An `if`, after its word. -/
def ifBlock (g : Grammar) (start : Pos) : Reader Stmt := do
  let test ← condition g
  let body ← suiteOf g
  let (parts, orelse) ← elifs g g.limit
  let stop ← lastEnd
  return .block (.ofPos start stop) (.ifThen test) body [] (nestElifs stop orelse parts) []

/-- A block of a head and a body, and perhaps an `else` suite. -/
def loopBlock (g : Grammar) (start : Pos) (head : Head) : Reader Stmt := do
  let body ← suiteOf g
  let orelse ← suiteAfter g "else"
  return .block (.ofPos start (← lastEnd)) head body [] orelse []

/-- A block of a head and a body. -/
def plainBlock (g : Grammar) (start : Pos) (head : Head) : Reader Stmt := do
  let body ← suiteOf g
  return .block (.ofPos start (← lastEnd)) head body [] [] []

/-- A `while`, after its word. -/
def whileBlock (g : Grammar) (start : Pos) : Reader Stmt := do
  loopBlock g start (.while (← condition g))

/-- A `for`, after its word. -/
def forBlock (g : Grammar) (start : Pos) (isAsync : Bool) : Reader Stmt := do
  let target ← targets g
  expectWord "in"
  loopBlock g start (.for isAsync target (← expressions g))

/-- A context of a `with`. -/
def withItem (g : Grammar) : Reader WithItem := do
  let context ← g.expression
  if ← acceptWord "as" then
    let t ← target g
    if (← atOp ",") || (← atOp ")") || (← atOp ":") then return ⟨context, some t⟩ else unexpected
  else return ⟨context, none⟩

/-- The contexts of a `with`, up to the colon: in parentheses if they can be read so. -/
def withItems (g : Grammar) : Reader (List WithItem) :=
  orElse
    (do
      expectOp "("
      let first ← withItem g
      let more ← moreItems startsExpression (withItem g) g.limit
      expectOp ")"
      if ← atOp ":" then return first :: more else unexpected)
    (separated (withItem g) g.limit)

/-- A `with`, after its word. -/
def withBlock (g : Grammar) (start : Pos) (isAsync : Bool) : Reader Stmt := do
  plainBlock g start (.with isAsync (← withItems g))

/-- A handler of a `try`. -/
def handler (g : Grammar) : Reader Stmt := do
  let start ← here
  expectWord "except"
  let isGroup ← acceptOp "*"
  if !isGroup && (← atOp ":") then plainBlock g start (.except false none none)
  else
    let type ← g.expression
    let bound ← optional (acceptWord "as") name
    plainBlock g start (.except isGroup (some type) bound)

/-- Whether a statement is a handler for groups. -/
def handlesGroups : Stmt → Bool
  | .block _ (.except isGroup _ _) _ _ _ _ => isGroup
  | _ => false

/-- A `try`, after its word. It needs handlers of one sort, or a `finally`. -/
def tryBlock (g : Grammar) (start : Pos) : Reader Stmt := do
  let body ← suiteOf g
  let handlers ← many (optional (atWord "except") (handler g)) g.limit
  if handlers.any handlesGroups && !handlers.all handlesGroups then reject
  let orelse ← if handlers.isEmpty then pure [] else suiteAfter g "else"
  let hasFinal ← atWord "finally"
  if handlers.isEmpty && !hasFinal then reject
  let final ← suiteAfter g "finally"
  return .block (.ofPos start (← lastEnd)) .try body handlers orelse final

/-- A function, after its word. -/
def functionBlock (g : Grammar) (start : Pos) (isAsync : Bool) (decorators : List Expr) :
    Reader Stmt := do
  let n ← name
  expectOp "("
  let ps ← params g true (starredOr g g.primary g.expression)
  expectOp ")"
  let returns ← optional (acceptOp "->") g.expression
  plainBlock g start (.function isAsync n decorators ps returns)

/-- A class, after its word. -/
def classBlock (g : Grammar) (start : Pos) (decorators : List Expr) : Reader Stmt := do
  let n ← name
  let (bases, keywords) ← if ← acceptOp "(" then arguments g false else pure ([], [])
  plainBlock g start (.class n decorators bases keywords)

/-- A decorator. -/
def decorator (g : Grammar) : Reader Expr := do
  let e ← condition g
  expectNewline
  return e

/-- A function or a class with the decorators in front of it. -/
def decorated (g : Grammar) : Reader Stmt := do
  let decorators ← many (optional (acceptOp "@") (decorator g)) g.limit
  let start ← here
  if ← acceptWord "class" then classBlock g start decorators
  else
    let isAsync ← acceptWord "async"
    expectWord "def"
    functionBlock g start isAsync decorators

/-- A case of a `match`. Its extent is that of its pattern and guard. -/
def caseBlock (g : Grammar) : Reader Stmt := do
  expectWord "case"
  let start ← here
  let pattern ← casePattern g
  let guard ← optional (acceptWord "if") (condition g)
  let stop ← lastEnd
  let body ← suiteOf g
  return .block (.ofPos start stop) (.case pattern guard) body [] [] []

/-- The cases of a `match`, up to the end of the suite that they make up. -/
def cases (g : Grammar) (limit : Nat) : Reader (List Stmt) :=
  match limit with
  | 0 => reject
  | limit + 1 => do
    let c ← caseBlock g
    match (← peek).kind with
    | .dedent => advance; return [c]
    | _ => return c :: (← cases g limit)

/-- The head of a `match` up to the end of its line, after its word. -/
def matchHead (g : Grammar) : Reader Expr := do
  let first ← item g
  let subject ← tupleAfter g (item g) first
  if isStarred subject then unexpected
  expectOp ":"
  expectNewline
  return subject

/-- A `match`, if that is what the word begins; else the statements of a line. -/
def matchOrLine (g : Grammar) (start : Pos) : Reader (List Stmt) := do
  let subject ← orElse (do advance; return some (← matchHead g)) (pure none)
  match subject with
  | some subject =>
    expectIndent
    let body ← cases g g.limit
    return [.block (.ofPos start (← lastEnd)) (.match subject) body [] [] []]
  | none => simpleLine g g.limit

/-- A statement with suites, or the statements of a line. -/
def statement (g : Grammar) : Reader (List Stmt) := do
  let start ← here
  let one (r : Reader Stmt) : Reader (List Stmt) := do
    advance
    return [← r]
  match (← peek).kind with
  | .word "if" => one (ifBlock g start)
  | .word "while" => one (whileBlock g start)
  | .word "for" => one (forBlock g start false)
  | .word "with" => one (withBlock g start false)
  | .word "try" => one (tryBlock g start)
  | .word "def" => one (functionBlock g start false [])
  | .word "class" => one (classBlock g start [])
  | .op "@" => return [← decorated g]
  | .word "async" =>
    advance
    if ← acceptWord "def" then return [← functionBlock g start true []]
    if ← acceptWord "for" then return [← forBlock g start true]
    expectWord "with"
    return [← withBlock g start true]
  | .word "match" => matchOrLine g start
  | _ => simpleLine g g.limit

/-- The statements from here on, up to the end of the suite. -/
def statements (g : Grammar) (limit : Nat) : Reader (List Stmt) :=
  match limit with
  | 0 => reject
  | limit + 1 => do
    match (← peek).kind with
    | .dedent => return []
    | .ending => return []
    | _ =>
      let first ← statement g
      return first ++ (← statements g limit)

/-- The statements of an indented suite, with its end. -/
def suiteRule (g : Grammar) : Reader (List Stmt) := do
  let body ← statements g g.limit
  match (← peek).kind with
  | .dedent => advance; return body
  | _ => unexpected

/-! ## The whole grammar -/

/-- The rules over a grammar for one level of nesting less. -/
def next (g : Grammar) : Grammar where
  limit := g.limit
  primary := primaryRule g
  factor := factorRule g
  inversion := inversionRule g
  disjunction := disjunctionRule g
  expression := expressionRule g
  pattern := patternRule g
  suite := suiteRule g

/-- The grammar for so many levels of nesting, in which nothing is repeated more often than `limit`
times. -/
def levels (limit : Nat) : Nat → Grammar
  | 0 => { stuck with limit := limit }
  | n + 1 => next (levels limit n)

end Crosswalk.Grammar

namespace Crosswalk

/-- Reads all statements of a source. -/
def readTree (g : Grammar) : Reader Tree := do
  let body ← g.statements g.limit
  match (← Reader.peek).kind with
  | .ending => return body
  | _ => Reader.unexpected

/-- Parses the characters of a source without comments. Every level of nesting takes at least one
character. -/
def Tree.parse (source : List Char) : Except SyntaxError Tree :=
  let size := source.length + 4
  match (readTree (Grammar.levels size (2 * size))).run ⟨Token.scan source, ⟨1, 0⟩⟩ with
  | .ok ⟨(tree, _), _⟩ => .ok tree
  | .error e => .error e.error

end Crosswalk

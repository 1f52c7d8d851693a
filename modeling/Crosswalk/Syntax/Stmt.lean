import Crosswalk.Syntax.Expr

/-!
# Statements

A source is a list of statements, and so is every suite in it. All statements that hold suites share one
shape, `Stmt.block`: a head, and up to four suites of which the absent ones are empty. The handlers of a
`try` and the cases of a `match` are blocks of their own, so that comments may stand between them as they
may between statements.
-/

namespace Crosswalk

/-- A place in a source: the line from one, the column from zero. -/
structure Pos where
  line : Nat
  column : Nat
  deriving DecidableEq, Repr, Inhabited

/-- The extent of a statement. -/
structure Span where
  line : Nat
  column : Nat
  endLine : Nat
  endColumn : Nat
  deriving DecidableEq, Repr, Inhabited

namespace Span

/-- Where a statement begins. -/
def start (s : Span) : Pos := ⟨s.line, s.column⟩

/-- The extent between two places. -/
def ofPos (start stop : Pos) : Span := ⟨start.line, start.column, stop.line, stop.column⟩

end Span

/-- An imported name and what it is called here. -/
structure Alias where
  name : String
  rename : Option String

/-- A context of a `with` and what it is bound to. -/
structure WithItem where
  context : Expr
  target : Option Expr

/-- A comment. It is inline if something else stands before it on its line. -/
structure Comment where
  text : String
  isInline : Bool
  span : Span
  deriving DecidableEq, Repr

/-- A statement without suites. `valueAt` is where the value of an assignment begins, without the
parentheses around it. -/
inductive Simple
  | expr (value : Expr)
  | assign (targets : List Expr) (value : Expr) (valueAt : Pos)
  | augmented (target : Expr) (op : BinaryOp) (value : Expr)
  | annotated (target : Expr) (isBare : Bool) (note : Expr) (value : Option Expr) (valueAt : Pos)
  | ret (value : Option Expr)
  | raise (exception cause : Option Expr)
  | del (targets : List Expr)
  | assert (test : Expr) (message : Option Expr)
  | imports (names : List Alias)
  | importsFrom (level : Nat) (source : String) (names : List Alias)
  | global (names : List String)
  | nonlocal (names : List String)
  | pass
  | break
  | continue

/-- What a statement with suites begins with. -/
inductive Head
  | ifThen (test : Expr)
  | while (test : Expr)
  | for (isAsync : Bool) (target source : Expr)
  | with (isAsync : Bool) (items : List WithItem)
  | function (isAsync : Bool) (name : String) (decorators : List Expr) (params : List Param)
      (returns : Option Expr)
  | class (name : String) (decorators bases : List Expr) (keywords : List Keyword)
  | try
  | except (isGroup : Bool) (type : Option Expr) (name : Option String)
  | match (subject : Expr)
  | case (pattern : Pattern) (guard : Option Expr)

/-- A statement or a comment. -/
inductive Stmt
  | comment (c : Comment)
  | simple (span : Span) (content : Simple)
  | block (span : Span) (head : Head) (body handlers orelse final : List Stmt)

namespace Stmt

/-- The extent of a statement. -/
def span : Stmt → Span
  | .comment c => c.span
  | .simple s _ => s
  | .block s _ _ _ _ _ => s

/-- Whether the statement is a comment. -/
def isComment : Stmt → Bool
  | .comment _ => true
  | _ => false

end Stmt

/-- A parsed source. -/
abbrev Tree := List Stmt

end Crosswalk

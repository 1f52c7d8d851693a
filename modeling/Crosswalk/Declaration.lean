import Crosswalk.Error
import Crosswalk.Syntax.DottedName
import Crosswalk.Syntax.Stmt

/-!
# Declarations

A declaration is a call that stands as a statement of its own, such as
`map("While", B_While, "test>condition, body%body")`: the tag on the A side, the constructor on the B side and
the mapping of the fields, which may be left out. `Declaration.read` takes it apart; what its arguments must be is
in `Declaration.ofArguments`.
-/

namespace Crosswalk

/-- Whether an expression is the name given. -/
def Expr.isName (name : String) : Expr → Bool
  | .name id => id == name
  | _ => false

/-- The text of a string literal. -/
def Expr.literal? : Expr → Option Text
  | .constant (.str t _) => some t
  | _ => none

@[simp] theorem Expr.literal?_str (t : Text) : (Expr.str t).literal? = some t := rfl

namespace Stmt

/-- The value of a statement that has one. -/
def value? : Stmt → Option Expr
  | .simple _ (.expr value) => some value
  | .simple _ (.assign _ value _) => some value
  | .simple _ (.augmented _ _ value) => some value
  | .simple _ (.annotated _ _ _ value _) => value
  | .simple _ (.ret value) => value
  | _ => none

/-- Whether a statement is a call of the name given. -/
def isDeclaration (name : String) : Stmt → Bool
  | .simple _ (.expr (.call function _ _)) => function.isName name
  | _ => false

end Stmt

/-- A declaration: how nodes with the tag are built on the other side. -/
structure Declaration where
  tag : Text
  constructor : DottedName
  mapping : Option Text
  pos : Pos

namespace Declaration

/-- What is wrong with the arguments of a call. -/
inductive Problem
  | keywords
  | count (found : Nat)
  | tag
  | constructor
  | mapping
  deriving DecidableEq

/-- The problem in words. -/
def Problem.message : Problem → String
  | .keywords => "Mapping declarations take positional arguments only"
  | .count found => "Expected 2 or 3 arguments, found " ++ toString found
  | .tag => "The first argument must be a string literal naming the Representation A type"
  | .constructor => "The second argument must name the Representation B constructor"
  | .mapping => "The third argument must be a mapping string"

/-- The mapping that an argument gives: a string literal, or none. -/
def mapping? : Expr → Option (Option Text)
  | .constant .none => some none
  | .constant (.str t _) => some (some t)
  | _ => none

/-- The declaration at a place with the arguments given, which are looked at from the first to the last. -/
def ofParts (pos : Pos) (tag constructor : Expr) (mapping : Option Expr) : Except Problem Declaration :=
  match tag.literal? with
  | none => .error .tag
  | some tag =>
    match constructor.dottedName? with
    | none => .error .constructor
    | some constructor =>
      match mapping with
      | none => .ok ⟨tag, constructor, none, pos⟩
      | some m =>
        match mapping? m with
        | none => .error .mapping
        | some mapping => .ok ⟨tag, constructor, mapping, pos⟩

/-- The declaration at a place whose call has the arguments given. -/
def ofArguments (pos : Pos) (arguments : List Expr) (keywords : List Keyword) :
    Except Problem Declaration :=
  if !keywords.isEmpty then .error .keywords
  else
    match arguments with
    | [tag, constructor] => ofParts pos tag constructor none
    | [tag, constructor, mapping] => ofParts pos tag constructor (some mapping)
    | _ => .error (.count arguments.length)

/-- The failure to read a call. -/
def failure (location : Location) (call : Expr) (problem : Problem) : Failure :=
  match call.print with
  | .ok text => .rejected ⟨.declaration (.ofString (problem.message ++ ": " ++ text)), location⟩
  | .error fault => .unprintable fault

/-- Where a statement of a file is. -/
def locationOf (file : Option String) (s : Stmt) : Location :=
  ⟨file, some s.span.line, some s.span.column⟩

/-- The declaration that a statement of a file is. -/
def read (file : Option String) (s : Stmt) : Except Failure Declaration :=
  match s.value? with
  | some (.call function arguments keywords) =>
    (ofArguments s.span.start arguments keywords).mapError
      (failure (locationOf file s) (.call function arguments keywords))
  | _ => .error .notACall

end Declaration

end Crosswalk

import Crosswalk.Grammar.Interpolation
import Crosswalk.Grammar.Reader

/-!
# The grammar as a record of readers

The grammar of the language refers to itself: an expression may hold any expression in brackets, and a
suite any statement. A `Grammar` holds the readers of these inner parts. The rules in the modules beside
this one are functions of a `Grammar`, and a whole grammar is made of rules over the grammar for one level
of nesting less.
-/

namespace Crosswalk

/-- The readers of the parts that may stand inside others. -/
structure Grammar where
  /-- A bound on how often anything is repeated. -/
  limit : Nat
  primary : Reader Expr
  factor : Reader Expr
  inversion : Reader Expr
  disjunction : Reader Expr
  expression : Reader Expr
  pattern : Reader Pattern
  suite : Reader (List Stmt)

/-- The grammar without any level of nesting left. -/
def Grammar.stuck : Grammar :=
  ⟨0, Reader.reject, Reader.reject, Reader.reject, Reader.reject, Reader.reject, Reader.reject, Reader.reject⟩

namespace Expr

/-- Whether the expression can be assigned to. -/
def isTarget : Expr → Bool
  | .name _ => true
  | .attribute .. => true
  | .subscript .. => true
  | .tuple items => areTargets items
  | .list items => areTargets items
  | _ => false
where
  /-- Whether all items can be assigned to, starred or not. -/
  areTargets : List Expr → Bool
    | [] => true
    | .starred e :: es => e.isTarget && areTargets es
    | e :: es => e.isTarget && areTargets es

/-- Whether the expression can be assigned to, starred or not. -/
def isStarTarget : Expr → Bool
  | .starred e => e.isTarget
  | e => e.isTarget

/-- Whether the expression can be deleted. -/
def isDeletable : Expr → Bool
  | .name _ => true
  | .attribute .. => true
  | .subscript .. => true
  | .tuple items => areDeletable items
  | .list items => areDeletable items
  | _ => false
where
  /-- Whether all items can be deleted. -/
  areDeletable : List Expr → Bool
    | [] => true
    | e :: es => e.isDeletable && areDeletable es

/-- Whether the expression is a single place: a name, an attribute or an item. -/
def isPlace : Expr → Bool
  | .name _ => true
  | .attribute .. => true
  | .subscript .. => true
  | _ => false

end Expr

end Crosswalk

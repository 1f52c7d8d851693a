import Crosswalk.Print.Expr

/-!
# Dotted names

A name, or a name with attributes, such as `B_Block` or `nodes.B_Block`. `Expr.dottedName?` reads one from an
expression and `DottedName.toExpr` is its inverse: `dottedName?_toExpr` and `toExpr_of_dottedName?`.
-/

namespace Crosswalk

/-- A name with its attributes, in the order in which they are written. -/
structure DottedName where
  root : String
  attributes : List String
  deriving DecidableEq

namespace DottedName

/-- A further attribute. -/
def push (n : DottedName) (attr : String) : DottedName := ⟨n.root, n.attributes ++ [attr]⟩

/-- The expression that a dotted name is. -/
def toExpr (n : DottedName) : Expr := n.attributes.foldl .attribute (.name n.root)

/-- The name and its attributes with dots in between. -/
def text (n : DottedName) : String := joinWith "." (n.root :: n.attributes)

end DottedName

namespace Expr

/-- The dotted name that an expression is. -/
def dottedName? : Expr → Option DottedName
  | .name id => some ⟨id, []⟩
  | .attribute value attr => value.dottedName?.map (·.push attr)
  | _ => none

/-- What the attributes of an expression are taken from. -/
def origin : Expr → Expr
  | .attribute value _ => value.origin
  | e => e

theorem dottedName?_foldl (attrs : List String) (e : Expr) :
    dottedName? (attrs.foldl .attribute e) =
      e.dottedName?.map fun n => ⟨n.root, n.attributes ++ attrs⟩ := by
  induction attrs generalizing e with
  | nil => simp
  | cons a rest ih =>
    rw [List.foldl_cons, ih, dottedName?]
    simp [Function.comp_def, DottedName.push]

@[simp] theorem dottedName?_toExpr (n : DottedName) : n.toExpr.dottedName? = some n := by
  simp [DottedName.toExpr, dottedName?_foldl, dottedName?]

theorem toExpr_of_dottedName? {e : Expr} {n : DottedName} (h : e.dottedName? = some n) :
    n.toExpr = e := by
  fun_induction dottedName? e generalizing n with
  | case1 id => cases h; rfl
  | case2 value attr ih =>
    obtain ⟨m, hm, rfl⟩ := Option.map_eq_some_iff.1 h
    simpa [DottedName.toExpr, DottedName.push] using ih hm
  | case3 => cases h

end Expr

end Crosswalk

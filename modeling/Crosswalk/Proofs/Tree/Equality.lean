import Crosswalk.Syntax.Stmt
import Mathlib.Logic.Basic

/-!
# Equality of trees

Whether two trees are equal can be computed. Expressions, patterns and statements hold lists of themselves, so each of
them is compared part by part, `Expr.same`, `Pattern.same` and `Stmt.same`, and a comparison tells equality as it does
so of the parts.
-/

namespace Crosswalk

/-- A comparison tells whether two things are equal. -/
def Tells {α : Type} (same : α → α → Bool) (a b : α) : Prop := same a b = true ↔ a = b

theorem Tells.of_ne {α : Type} {same : α → α → Bool} {a b : α} (h : same a b = false) (hne : a ≠ b) :
    Tells same a b :=
  iff_of_false (Bool.eq_false_iff.1 h) hne

/-! ## Expressions -/

deriving instance DecidableEq for Constant

mutual

/-- Whether two expressions have the same parts. -/
@[simp] def Expr.same : Expr → Expr → Bool
  | .name n, .name m => n == m
  | .constant c, .constant d => c == d
  | .interpolated ps, .interpolated qs => samePieces ps qs
  | .unary op x, .unary op' y => op == op' && x.same y
  | .binary op x x', .binary op' y y' => op == op' && x.same y && x'.same y'
  | .boolean op xs, .boolean op' ys => op == op' && sameEach xs ys
  | .compare x ls, .compare y ks => x.same y && sameLinks ls ks
  | .conditional x x' x'', .conditional y y' y'' => x.same y && x'.same y' && x''.same y''
  | .named n x, .named m y => n == m && x.same y
  | .lambda ps x, .lambda qs y => sameParams ps qs && x.same y
  | .await x, .await y => x.same y
  | .yield o, .yield p => sameOption o p
  | .yieldFrom x, .yieldFrom y => x.same y
  | .starred x, .starred y => x.same y
  | .attribute x n, .attribute y m => x.same y && n == m
  | .subscript x x', .subscript y y' => x.same y && x'.same y'
  | .slice o o' o'', .slice p p' p'' => sameOption o p && sameOption o' p' && sameOption o'' p''
  | .call x xs ks, .call y ys ls => x.same y && sameEach xs ys && sameKeywords ks ls
  | .tuple xs, .tuple ys => sameEach xs ys
  | .list xs, .list ys => sameEach xs ys
  | .set xs, .set ys => sameEach xs ys
  | .dict es, .dict fs => sameEntries es fs
  | .comprehension c x cs, .comprehension d y ds => c == d && x.same y && sameClauses cs ds
  | .dictComprehension x x' cs, .dictComprehension y y' ds => x.same y && x'.same y' && sameClauses cs ds
  | _, _ => false

/-- Whether expressions have the same parts one by one. -/
@[simp] def sameEach : List Expr → List Expr → Bool
  | [], [] => true
  | x :: xs, y :: ys => x.same y && sameEach xs ys
  | [], _ :: _ => false
  | _ :: _, [] => false

/-- Whether two expressions that may be absent are both absent or have the same parts. -/
@[simp] def sameOption : Option Expr → Option Expr → Bool
  | none, none => true
  | some x, some y => x.same y
  | none, some _ => false
  | some _, none => false

/-- Whether the links of two comparison chains have the same parts. -/
@[simp] def sameLinks : List Comparison → List Comparison → Bool
  | [], [] => true
  | .mk op x :: ls, .mk op' y :: ks => op == op' && x.same y && sameLinks ls ks
  | [], _ :: _ => false
  | _ :: _, [] => false

/-- Whether keywords have the same parts one by one. -/
@[simp] def sameKeywords : List Keyword → List Keyword → Bool
  | [], [] => true
  | .named n x :: ks, .named m y :: ls => n == m && x.same y && sameKeywords ks ls
  | .spread x :: ks, .spread y :: ls => x.same y && sameKeywords ks ls
  | .named .. :: _, .spread .. :: _ => false
  | .spread .. :: _, .named .. :: _ => false
  | [], _ :: _ => false
  | _ :: _, [] => false

/-- Whether entries have the same parts one by one. -/
@[simp] def sameEntries : List Entry → List Entry → Bool
  | [], [] => true
  | .pair x x' :: es, .pair y y' :: fs => x.same y && x'.same y' && sameEntries es fs
  | .spread x :: es, .spread y :: fs => x.same y && sameEntries es fs
  | .pair .. :: _, .spread .. :: _ => false
  | .spread .. :: _, .pair .. :: _ => false
  | [], _ :: _ => false
  | _ :: _, [] => false

/-- Whether parameters have the same parts one by one. -/
@[simp] def sameParams : List Param → List Param → Bool
  | [], [] => true
  | .mk k n o o' :: ps, .mk l m p p' :: qs =>
    k == l && n == m && sameOption o p && sameOption o' p' && sameParams ps qs
  | [], _ :: _ => false
  | _ :: _, [] => false

/-- Whether the loops of two comprehensions have the same parts. -/
@[simp] def sameClauses : List Clause → List Clause → Bool
  | [], [] => true
  | .mk b x x' xs :: cs, .mk b' y y' ys :: ds =>
    b == b' && x.same y && x'.same y' && sameEach xs ys && sameClauses cs ds
  | [], _ :: _ => false
  | _ :: _, [] => false

/-- Whether the pieces of two interpolated strings have the same parts. -/
@[simp] def samePieces : List Piece → List Piece → Bool
  | [], [] => true
  | .literal t :: ps, .literal u :: qs => t == u && samePieces ps qs
  | .value x c :: ps, .value y d :: qs => x.same y && c == d && samePieces ps qs
  | .formatted x c fs :: ps, .formatted y d gs :: qs => x.same y && c == d && samePieces fs gs && samePieces ps qs
  | .literal _ :: _, .value .. :: _ => false
  | .literal _ :: _, .formatted .. :: _ => false
  | .value .. :: _, .literal _ :: _ => false
  | .value .. :: _, .formatted .. :: _ => false
  | .formatted .. :: _, .literal _ :: _ => false
  | .formatted .. :: _, .value .. :: _ => false
  | [], _ :: _ => false
  | _ :: _, [] => false

end

/-- Expressions are equal if they have the same parts. -/
theorem Expr.tells_same : ∀ a b, Tells Expr.same a b := by
  apply Expr.same.induct (Tells Expr.same) (Tells sameClauses) (Tells sameEach) (Tells sameEntries)
    (Tells sameKeywords) (Tells sameOption) (Tells sameParams) (Tells sameLinks) (Tells samePieces)
  case case25 =>
    -- the two are not built alike, as the hypotheses say of each constructor
    intro a b
    intros
    refine .of_ne (by simp [*]) ?_
    rintro rfl
    cases a <;> grind
  all_goals simp_all [Tells, and_assoc]

instance : DecidableEq Expr := fun a b => decidable_of_iff _ (Expr.tells_same a b)

instance : DecidableEq Keyword
  | .named n x, .named m y => decidable_of_iff (n = m ∧ x = y) (by simp)
  | .spread x, .spread y => decidable_of_iff (x = y) (by simp)
  | .named .., .spread _ => isFalse nofun
  | .spread _, .named .. => isFalse nofun

instance : DecidableEq Param
  | .mk k n o o', .mk l m p p' => decidable_of_iff (k = l ∧ n = m ∧ o = p ∧ o' = p') (by simp)

/-! ## Patterns -/

mutual

/-- Whether two patterns have the same parts. -/
@[simp] def Pattern.same : Pattern → Pattern → Bool
  | .value x, .value y => x == y
  | .singleton c, .singleton d => c == d
  | .sequence ps, .sequence qs => samePatterns ps qs
  | .star n, .star m => n == m
  | .mapping xs ps n, .mapping ys qs m => xs == ys && samePatterns ps qs && n == m
  | .instance x ps ns ps', .instance y qs ms qs' => x == y && samePatterns ps qs && ns == ms && samePatterns ps' qs'
  | .wildcard, .wildcard => true
  | .capture n, .capture m => n == m
  | .alias p n, .alias q m => p.same q && n == m
  | .choice ps, .choice qs => samePatterns ps qs
  | _, _ => false

/-- Whether patterns have the same parts one by one. -/
@[simp] def samePatterns : List Pattern → List Pattern → Bool
  | [], [] => true
  | p :: ps, q :: qs => p.same q && samePatterns ps qs
  | [], _ :: _ => false
  | _ :: _, [] => false

end

theorem Pattern.tells_same : ∀ a b, Tells Pattern.same a b := by
  apply Pattern.same.induct (Tells Pattern.same) (Tells samePatterns)
  case case11 =>
    intro a b
    intros
    refine .of_ne (by simp [*]) ?_
    rintro rfl
    cases a <;> grind
  all_goals simp_all [Tells, and_assoc]

instance : DecidableEq Pattern := fun a b => decidable_of_iff _ (Pattern.tells_same a b)

/-! ## Statements -/

deriving instance DecidableEq for Alias, WithItem, Simple, Head

mutual

/-- Whether two statements have the same parts. -/
@[simp] def Stmt.same : Stmt → Stmt → Bool
  | .comment c, .comment d => c == d
  | .simple s x, .simple t y => s == t && x == y
  | .block s h xs hs es fs, .block t k ys ks gs os =>
    s == t && h == k && sameAll xs ys && sameAll hs ks && sameAll es gs && sameAll fs os
  | _, _ => false

/-- Whether statements have the same parts one by one. -/
@[simp] def sameAll : List Stmt → List Stmt → Bool
  | [], [] => true
  | x :: xs, y :: ys => x.same y && sameAll xs ys
  | [], _ :: _ => false
  | _ :: _, [] => false

end

theorem Stmt.tells_same : ∀ a b, Tells Stmt.same a b := by
  apply Stmt.same.induct (Tells Stmt.same) (Tells sameAll)
  case case4 =>
    intro a b
    intros
    refine .of_ne (by simp [*]) ?_
    rintro rfl
    cases a <;> grind
  all_goals simp_all [Tells, and_assoc]

instance : DecidableEq Stmt := fun a b => decidable_of_iff _ (Stmt.tells_same a b)

end Crosswalk

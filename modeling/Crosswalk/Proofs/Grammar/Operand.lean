import Crosswalk.Grammar.Statement
import Crosswalk.Proofs.Grammar.Takes

/-!
# Expressions without operators

An expression that begins with the token of a primary and ends before a token that closes it is read as just that
primary: none of the rules for operators finds one. `Opens` and `Closes` are the tokens, `takes_full` is the
result.
-/

namespace Crosswalk.Grammar

open Reader

/-- A token that begins a primary: a bare name, a string or a brace. -/
inductive Opens : TokenKind → Prop
  | word {w : String} (h : w ∉ Text.reservedWords) : Opens (.word w)
  | string (literal : StringToken) : Opens (.string literal)
  | brace : Opens (.op "\x7b")

/-- A token that ends an expression. -/
inductive Closes : TokenKind → Prop
  | newline : Closes .newline
  | colon : Closes (.op ":")
  | comma : Closes (.op ",")
  | round : Closes (.op ")")
  | square : Closes (.op "]")
  | curly : Closes (.op "\x7d")

variable {g : Grammar} {primary operand : Reader Expr} {e : Expr} {k k' : TokenKind} {ks ks' : List TokenKind}
  {s w : String}

namespace Opens

theorem sound (h : Opens k) : Sound k := by cases h <;> exact nofun

theorem isOp (h : Opens k) (hs : s ≠ "\x7b") : isOp s k = false := by
  cases h with
  | word | string => rfl
  | brace => exact beq_eq_false_iff_ne.2 hs.symm

theorem isWord (h : Opens k) (hw : w ∈ Text.reservedWords) : isWord w k = false := by
  cases h with
  | word hbare =>
    refine beq_eq_false_iff_ne.2 ?_
    rintro rfl
    exact hbare hw
  | string | brace => rfl

end Opens

namespace Closes

theorem sound (h : Closes k) : Sound k := by cases h <;> exact nofun

theorem isOp (h : Closes k) (hs : s ∉ [":", ",", ")", "]", "\x7d"]) : isOp s k = false := by
  simp only [List.mem_cons, List.not_mem_nil, or_false, not_or] at hs
  cases h <;> simp [Ne.symm, hs]

theorem isWord (h : Closes k) (w : String) : isWord w k = false := by cases h <;> rfl

theorem binaryOp?_eq_none (h : Closes k) {ops : List (String × BinaryOp)}
    (hops : ∀ o ∈ ops, o.1 ∉ [":", ",", ")", "]", "\x7d"]) : binaryOp? ops k = none := by
  have hlookup (s : String) (hs : s ∈ [":", ",", ")", "]", "\x7d"]) : ops.lookup s = none := by
    rw [List.lookup_eq_none_iff]
    intro o ho
    rw [bne_iff_ne]
    rintro rfl
    exact hops o ho hs
  cases h with
  | newline => rfl
  | _ => exact hlookup _ (by decide)

end Closes

/-! ## The rules for operators -/

theorem takes_leftGrouping {op? : TokenKind → Option BinaryOp} (hk : Sound k) (hop : op? k = none)
    (h : operand.Takes ks (· = e) (k :: ks')) : (leftGrouping g op? operand).Takes ks (· = e) (k :: ks') := by
  refine h.then ?_
  cases g.limit with
  | zero => exact takes_pure rfl
  | succ limit =>
    refine (takes_peek hk).bind fun t ht => ?_
    rw [ht, hop]
    exact takes_pure rfl

theorem takes_signed (hk : Opens k) (hk' : Closes k') (h : primary.Takes (k :: ks) (· = e) (k' :: ks')) :
    (signed g primary).Takes (k :: ks) (· = e) (k' :: ks') := by
  have hawaited : (awaited g primary).Takes (k :: ks) (· = e) (k' :: ks') :=
    .skipWord hk.sound (hk.isWord (by decide)) h
  have hpower : (power g primary).Takes (k :: ks) (· = e) (k' :: ks') :=
    hawaited.then (.skipOp hk'.sound (hk'.isOp (by decide)) (takes_pure rfl))
  exact .skipOp hk.sound (hk.isOp (by decide)) (.skipOp hk.sound (hk.isOp (by decide))
    (.skipOp hk.sound (hk.isOp (by decide)) hpower))

theorem takes_bitOr (hk : Opens k) (hk' : Closes k') (h : primary.Takes (k :: ks) (· = e) (k' :: ks')) :
    (bitOr g primary).Takes (k :: ks) (· = e) (k' :: ks') := by
  -- six levels of operators, from the tightest to the loosest, and none of them finds its operator
  have hproduct : (product g primary).Takes (k :: ks) (· = e) (k' :: ks') :=
    takes_leftGrouping hk'.sound (hk'.binaryOp?_eq_none (by decide)) (takes_signed hk hk' h)
  have hsum : (sum g primary).Takes (k :: ks) (· = e) (k' :: ks') :=
    takes_leftGrouping hk'.sound (hk'.binaryOp?_eq_none (by decide)) hproduct
  have hshifted : (shifted g primary).Takes (k :: ks) (· = e) (k' :: ks') :=
    takes_leftGrouping hk'.sound (hk'.binaryOp?_eq_none (by decide)) hsum
  have hbitAnd : (bitAnd g primary).Takes (k :: ks) (· = e) (k' :: ks') :=
    takes_leftGrouping hk'.sound (hk'.binaryOp?_eq_none (by decide)) hshifted
  have hbitXor : (bitXor g primary).Takes (k :: ks) (· = e) (k' :: ks') :=
    takes_leftGrouping hk'.sound (hk'.binaryOp?_eq_none (by decide)) hbitAnd
  exact takes_leftGrouping hk'.sound (hk'.binaryOp?_eq_none (by decide)) hbitXor

theorem takes_compareOp (hk : Closes k) : compareOp.Takes (k :: ks) (· = none) (k :: ks) := by
  refine (takes_peek hk.sound).bind fun t ht => ?_
  rw [ht]
  cases hk <;> exact takes_pure rfl

theorem takes_comparison (hk : Opens k) (hk' : Closes k') (h : primary.Takes (k :: ks) (· = e) (k' :: ks')) :
    (comparison g primary).Takes (k :: ks) (· = e) (k' :: ks') := by
  refine (takes_bitOr hk hk' h).then (.then (takes_many_nil ?_ _) (takes_pure rfl))
  exact (takes_compareOp hk').then (takes_pure rfl)

theorem takes_joined {op : BoolOp} (hk : Closes k) (h : operand.Takes ks (· = e) (k :: ks')) :
    (joined g w op operand).Takes ks (· = e) (k :: ks') := by
  have hmark : (acceptWord w).Takes (k :: ks') (· = false) (k :: ks') := takes_acceptWord_of_ne hk.sound (hk.isWord w)
  exact h.then ((takes_many_nil (takes_optional_none hmark) _).then (takes_pure rfl))

/-- A primary that nothing goes on with is a whole expression. -/
theorem takes_full (hk : Opens k) (hk' : Closes k') (h : primary.Takes (k :: ks) (· = e) (k' :: ks')) :
    (full g primary).Takes (k :: ks) (· = e) (k' :: ks') := by
  have hnegated : (negated g primary).Takes (k :: ks) (· = e) (k' :: ks') :=
    .skipWord hk.sound (hk.isWord (by decide)) (takes_comparison hk hk' h)
  have halternatives : (alternatives g primary).Takes (k :: ks) (· = e) (k' :: ks') :=
    takes_joined hk' (takes_joined hk' hnegated)
  exact .skipWord hk.sound (hk.isWord (by decide))
    (halternatives.then (.skipWord hk'.sound (hk'.isWord _) (takes_pure rfl)))

/-- Behind a closing token no loop of a comprehension begins. -/
theorem takes_atClause (hk : Closes k) : atClause.Takes (k :: ks) (· = false) (k :: ks) := by
  refine (takes_atWord hk.sound).then ?_
  rw [hk.isWord, if_neg Bool.false_ne_true, ← hk.isWord "async"]
  exact takes_atWord hk.sound

end Crosswalk.Grammar

import Crosswalk.Grammar.Statement
import Crosswalk.Proofs.Grammar.Reads
import Crosswalk.Proofs.Syntax.DottedName
import Crosswalk.Proofs.Token.Word

/-!
# What is read off plain tokens

`Reader.Gives P r` says that all values which `r` reads off plain tokens have the property `P`; the laws of the relation
follow the steps of a reader. With them the names in an expression that is read are traced to words, so none of them
holds a dot: `Grammar.gives_expression_levels`.
-/

namespace Crosswalk

open Token

namespace Reader

variable {α β : Type} {P : α → Prop} {Q : β → Prop} {r r' : Reader α} {f : α → Reader β} {a : α}

/-- What is read off plain tokens has the property. -/
def Gives (P : α → Prop) (r : Reader α) : Prop := ∀ c a c', ArePlain c.tokens → r.Reads c a c' → P a

theorem gives_pure (h : P a) : Gives P (pure a : Reader α) := by
  intro c b c' _ hreads
  obtain ⟨rfl, rfl⟩ := reads_pure_iff.1 hreads
  exact h

theorem gives_reject : Gives P (reject : Reader α) := fun _ _ _ _ hreads => absurd hreads not_reads_reject

theorem gives_unexpected : Gives P (unexpected : Reader α) := fun _ _ _ _ hreads => absurd hreads not_reads_unexpected

namespace Gives

/-- The tokens that a reader leaves are plain as well. -/
theorem bind (h : Gives P r) (hf : ∀ a, P a → Gives Q (f a)) : Gives Q (r >>= f) := by
  intro c b c'' hc hreads
  obtain ⟨a, c', hr, hb⟩ := reads_bind_iff.1 hreads
  exact hf a (h c a c' hc hr) c' b c'' (fun t ht => hc t (hr.suffix.subset ht)) hb

/-- Whatever is read first. -/
theorem after (hf : ∀ a, Gives Q (f a)) : Gives Q (r >>= f) :=
  bind (P := fun _ => True) (fun _ _ _ _ _ => trivial) fun a _ => hf a

/-- Behind a reader that always fails nothing is read. -/
theorem absurd (h : Gives (fun _ => False) r) : Gives Q (r >>= f) := h.bind fun _ ha => ha.elim

/-- Whatever the choice between two readers depends on. -/
theorem ite {p : Prop} [Decidable p] (h : Gives P r) (h' : Gives P r') : Gives P (if p then r else r') := by
  split
  · exact h
  · exact h'

theorem optional {mark : Reader Bool} (h : Gives P r) : Gives (fun a? => ∀ a ∈ a?, P a) (optional mark r) := by
  refine .after fun found => ?_
  split
  · exact h.bind fun a ha => gives_pure (by simpa using ha)
  · exact gives_pure nofun

theorem many {r : Reader (Option α)} (h : Gives (fun a? => ∀ a ∈ a?, P a) r) (limit : Nat) :
    Gives (fun as => ∀ a ∈ as, P a) (many r limit) := by
  induction limit with
  | zero => exact gives_pure nofun
  | succ limit ih =>
    refine h.bind fun a? ha => ?_
    split
    · exact ih.bind fun as has => gives_pure (List.forall_mem_cons.2 ⟨ha _ rfl, has⟩)
    · exact gives_pure nofun

end Gives

/-- There is no dot in a name. -/
theorem gives_name : Gives (fun n => '.' ∉ n.toList) name := by
  intro c n c' hc hreads
  rw [name, reads_bind_iff] at hreads
  obtain ⟨t, c₁, hpeek, hreads⟩ := hreads
  obtain ⟨rfl, rest, hrest⟩ := hpeek.peek
  split at hreads
  · rename_i hname
    simp only [reads_bind_iff, reads_pure_iff] at hreads
    obtain ⟨_, c₂, -, rfl, -⟩ := hreads
    exact dot_not_mem_nameOf? (hc t (hrest ▸ List.mem_cons_self)) hname
  · exact absurd hreads not_reads_unexpected

end Reader

/-! ## Expressions without dots in their names -/

namespace Expr

/-- If the expression is a reference, no name in it holds a dot. -/
def IsDotless (e : Expr) : Prop := ∀ n, e.dottedName? = some n → n.IsDotless

/-- The positional arguments of a call. -/
def arguments : Expr → List Expr
  | .call _ arguments _ => arguments
  | _ => []

/-- Neither in the expression nor in what it passes to a call does a name of a reference hold a dot. -/
structure IsTidy (e : Expr) : Prop where
  isDotless : e.IsDotless
  arguments : ∀ a ∈ e.arguments, a.IsDotless

namespace IsTidy

variable {e : Expr} {attr : String} {as : List Expr} {ks : List Keyword}

/-- What is neither a reference nor a call. -/
theorem other (h : e.dottedName? = none) (h' : e.arguments = []) : e.IsTidy :=
  ⟨fun n hn => absurd hn (by simp [h]), fun a ha => absurd ha (by simp [h'])⟩

theorem name {id : String} (h : '.' ∉ id.toList) : (Expr.name id).IsTidy := by
  refine ⟨fun n hn => ?_, nofun⟩
  cases hn
  exact List.forall_mem_singleton.2 h

theorem dot (he : e.IsTidy) (h : '.' ∉ attr.toList) : (Expr.attribute e attr).IsTidy := by
  refine ⟨fun n hn => ?_, nofun⟩
  obtain ⟨m, hm, rfl⟩ := Option.map_eq_some_iff.1 hn
  exact (he.isDotless m hm).push h

theorem call (has : ∀ a ∈ as, a.IsTidy) : (Expr.call e as ks).IsTidy :=
  ⟨nofun, fun a ha => (has a ha).isDotless⟩

end IsTidy

end Expr

namespace Grammar

open Reader Crosswalk.Expr

variable {g : Grammar} {primary operand plain item : Reader Expr} {e : Expr}

/-! ## Operators -/

theorem gives_chain {op? : TokenKind → Option BinaryOp} (limit : Nat) (he : e.IsTidy) :
    Gives IsTidy (chain op? operand limit e) := by
  induction limit generalizing e with
  | zero => exact gives_pure he
  | succ limit ih =>
    refine .after fun t => ?_
    split
    · exact .after fun _ => .after fun right => ih (.other rfl rfl)
    · exact gives_pure he

theorem gives_leftGrouping {op? : TokenKind → Option BinaryOp} (h : Gives IsTidy operand) :
    Gives IsTidy (leftGrouping g op? operand) :=
  h.bind fun _ he => gives_chain g.limit he

section

variable (hprimary : Gives IsTidy primary)

include hprimary

theorem gives_awaited : Gives IsTidy (awaited g primary) := by
  refine .after fun isAwaited => ?_
  split
  · exact .after fun _ => gives_pure (.other rfl rfl)
  · exact hprimary

theorem gives_power : Gives IsTidy (power g primary) := by
  refine (gives_awaited hprimary).bind fun base hbase => .after fun isPower => ?_
  split
  · exact .after fun _ => gives_pure (.other rfl rfl)
  · exact gives_pure hbase

theorem gives_signed : Gives IsTidy (signed g primary) := by
  refine .after fun isPlus => ?_
  split
  · exact .after fun _ => gives_pure (.other rfl rfl)
  refine .after fun isMinus => ?_
  split
  · exact .after fun _ => gives_pure (.other rfl rfl)
  refine .after fun isInvert => ?_
  split
  · exact .after fun _ => gives_pure (.other rfl rfl)
  · exact gives_power hprimary

theorem gives_bitOr : Gives IsTidy (bitOr g primary) :=
  gives_leftGrouping <| gives_leftGrouping <| gives_leftGrouping <| gives_leftGrouping <| gives_leftGrouping <|
    gives_leftGrouping <| gives_signed hprimary

theorem gives_comparison : Gives IsTidy (comparison g primary) := by
  refine (gives_bitOr hprimary).bind fun first hfirst => .after fun links => ?_
  split
  · exact gives_pure hfirst
  · exact gives_pure (.other rfl rfl)

theorem gives_negated : Gives IsTidy (negated g primary) := by
  refine .after fun isNegated => ?_
  split
  · exact .after fun _ => gives_pure (.other rfl rfl)
  · exact gives_comparison hprimary

end

theorem gives_joined {word : String} {op : BoolOp} (h : Gives IsTidy operand) :
    Gives IsTidy (joined g word op operand) := by
  refine h.bind fun first hfirst => .after fun more => ?_
  split
  · exact gives_pure hfirst
  · exact gives_pure (.other rfl rfl)

theorem gives_alternatives (h : Gives IsTidy primary) : Gives IsTidy (alternatives g primary) :=
  gives_joined (gives_joined (gives_negated h))

theorem gives_lambda : Gives IsTidy (lambda g) :=
  .after fun _ => .after fun _ => .after fun _ => gives_pure (.other rfl rfl)

theorem gives_full (h : Gives IsTidy primary) : Gives IsTidy (full g primary) := by
  refine .after fun isLambda => ?_
  split
  · exact gives_lambda
  refine (gives_alternatives h).bind fun body hbody => .after fun isConditional => ?_
  split
  · exact .after fun _ => .after fun _ => .after fun _ => gives_pure (.other rfl rfl)
  · exact gives_pure hbody

theorem gives_starredOr (h : Gives IsTidy plain) : Gives IsTidy (starredOr g primary plain) := by
  refine .after fun isStarred => ?_
  split
  · exact .after fun _ => gives_pure (.other rfl rfl)
  · exact h

theorem gives_namedOr (h : Gives IsTidy plain) : Gives IsTidy (namedOr g plain) := by
  refine .after fun isNamed => ?_
  split
  · exact .after fun _ => .after fun _ => .after fun _ => gives_pure (.other rfl rfl)
  · exact h

theorem gives_tupleAfter (he : e.IsTidy) : Gives IsTidy (tupleAfter g item e) := by
  refine .after fun isTuple => ?_
  split
  · exact .after fun _ => gives_pure (.other rfl rfl)
  · exact gives_pure he

/-! ## Atoms -/

theorem gives_yielded : Gives IsTidy (yielded g) := by
  refine .after fun isFrom => ?_
  split
  · exact .after fun _ => gives_pure (.other rfl rfl)
  refine .after fun t => ?_
  split
  · exact .after fun _ => gives_pure (.other rfl rfl)
  · exact gives_pure (.other rfl rfl)

theorem gives_listDisplay : Gives IsTidy (listDisplay g) := by
  refine .after fun isEmpty => ?_
  split
  · exact gives_pure (.other rfl rfl)
  refine .after fun first => .after fun isComprehension => ?_
  split
  · exact .after fun _ => .after fun _ => gives_pure (.other rfl rfl)
  · exact .after fun _ => .after fun _ => gives_pure (.other rfl rfl)

theorem gives_dictAfter (first : Entry) : Gives IsTidy (dictAfter g first) :=
  .after fun _ => .after fun _ => gives_pure (.other rfl rfl)

theorem gives_braces : Gives IsTidy (braces g) := by
  refine .after fun isEmpty => ?_
  split
  · exact gives_pure (.other rfl rfl)
  refine .after fun isSpread => ?_
  split
  · exact .after fun first => gives_dictAfter first
  refine .after fun isNamed => .after fun first => .after fun isDict => ?_
  split
  · refine .after fun value => .after fun isComprehension => ?_
    split
    · exact .after fun _ => .after fun _ => gives_pure (.other rfl rfl)
    · exact gives_dictAfter _
  refine .after fun isComprehension => ?_
  split
  · exact .after fun _ => .after fun _ => gives_pure (.other rfl rfl)
  · exact .after fun _ => .after fun _ => gives_pure (.other rfl rfl)

theorem isTidy_of_stringValue {ss : List StringToken} (h : stringValue g ss = some e) : e.IsTidy := by
  unfold stringValue at h
  split at h
  · obtain ⟨_, -, rfl⟩ := Option.map_eq_some_iff.1 h
    exact .other rfl rfl
  · split at h
    · cases h
    · obtain ⟨_, -, rfl⟩ := Option.map_eq_some_iff.1 h
      dsimp only
      split <;> exact .other rfl rfl

theorem gives_strings : Gives IsTidy (strings g) := by
  refine .after fun ss => ?_
  split
  · rename_i h
    exact gives_pure (isTidy_of_stringValue h)
  · exact gives_reject

section

variable (hg : Gives IsTidy g.expression)

include hg

theorem gives_item : Gives IsTidy (Grammar.item g) := by
  refine .after fun isStarred => ?_
  split
  · exact .after fun _ => gives_pure (.other rfl rfl)
  · exact gives_namedOr hg

theorem gives_expressions : Gives IsTidy (expressions g) :=
  (gives_starredOr hg).bind fun _ he => gives_tupleAfter he

theorem gives_parenthesis : Gives IsTidy (parenthesis g) := by
  refine .after fun isEmpty => ?_
  split
  · exact gives_pure (.other rfl rfl)
  refine .after fun isYield => ?_
  split
  · exact gives_yielded.bind fun e he => .after fun _ => gives_pure he
  refine (gives_item hg).bind fun first hfirst => .after fun isTuple => ?_
  split
  · exact .after fun _ => .after fun _ => gives_pure (.other rfl rfl)
  dsimp only
  split
  · exact .absurd gives_unexpected
  refine .after fun isGenerator => ?_
  split
  · exact .after fun _ => .after fun _ => gives_pure (.other rfl rfl)
  · exact .after fun _ => gives_pure hfirst

theorem gives_atom : Gives IsTidy (atom g) := by
  refine .after fun t => ?_
  split
  · split
    · exact .after fun _ => gives_pure (.other rfl rfl)
    · exact gives_name.bind fun n hn => gives_pure (.name hn)
  · exact .after fun _ => gives_pure (.other rfl rfl)
  · exact gives_reject
  · exact gives_strings
  · exact .after fun _ => gives_parenthesis hg
  · exact .after fun _ => gives_listDisplay
  · exact .after fun _ => gives_braces
  · exact .after fun _ => gives_pure (.other rfl rfl)
  · exact gives_unexpected

/-! ## Calls -/

theorem gives_argumentsFrom (mayGenerate : Bool) (stage : ArgumentStage) (limit : Nat) :
    Gives (fun p => ∀ a ∈ p.1, a.IsTidy) (argumentsFrom g mayGenerate stage limit) := by
  induction limit generalizing mayGenerate stage with
  | zero => exact gives_reject
  | succ limit ih =>
    -- what comes behind an argument is read by the rule for one argument less
    have hrest (stage : ArgumentStage) : Gives (fun p => ∀ a ∈ p.1, a.IsTidy) (do
        if ← acceptOp "," then argumentsFrom g false stage limit
        else
          expectOp ")"
          return (([], []) : List Expr × List Keyword)) := by
      refine .after fun isMore => ?_
      split
      · exact ih false stage
      · exact .after fun _ => gives_pure nofun
    refine .after fun isEmpty => ?_
    split
    · exact gives_pure nofun
    refine .after fun isSpread => ?_
    split
    · exact .after fun _ => (hrest _).bind fun p hp => gives_pure hp
    refine .after fun isNamed => ?_
    split
    · exact .after fun _ => .after fun _ => .after fun _ => (hrest _).bind fun p hp => gives_pure hp
    refine .after fun isStarred => ?_
    split
    · exact .after fun _ => (hrest _).bind fun p hp => gives_pure (List.forall_mem_cons.2 ⟨.other rfl rfl, hp⟩)
    split
    · refine (gives_namedOr hg).bind fun value hvalue => .after fun isGenerator => ?_
      split
      · exact .after fun _ => .after fun _ => gives_pure (List.forall_mem_singleton.2 (.other rfl rfl))
      · exact (hrest _).bind fun p hp => gives_pure (List.forall_mem_cons.2 ⟨hvalue, hp⟩)
    · exact gives_unexpected

theorem gives_trailers (limit : Nat) (he : e.IsTidy) : Gives IsTidy (trailers g limit e) := by
  induction limit generalizing e with
  | zero => exact gives_pure he
  | succ limit ih =>
    refine .after fun isAttribute => ?_
    split
    · exact gives_name.bind fun attr hattr => ih (he.dot hattr)
    refine .after fun isCall => ?_
    split
    · exact (gives_argumentsFrom hg true .positional g.limit).bind fun p hp => ih (.call hp)
    refine .after fun isSubscript => ?_
    split
    · exact .after fun _ => ih (.other rfl rfl)
    · exact gives_pure he

theorem gives_primaryRule : Gives IsTidy (primaryRule g) :=
  (gives_atom hg).bind fun _ he => gives_trailers hg g.limit he

theorem gives_expressionRule : Gives IsTidy (expressionRule g) := gives_full (gives_primaryRule hg)

end

/-- On every level of nesting the references that are read have names without dots. -/
theorem gives_expression_levels (limit n : Nat) : Gives IsTidy (levels limit n).expression := by
  induction n with
  | zero => exact gives_reject
  | succ n ih => exact gives_expressionRule ih

end Grammar
end Crosswalk

import Crosswalk.Proofs.Grammar.Recovers

/-!
# Reading a line

A text whose tokens are those of a generated expression is parsed as one statement, the expression:
`Tree.parse_of_map_kind`. The expression begins with a word that begins no other statement, `StartsLine`.
-/

namespace Crosswalk

namespace Grammar

open Reader

variable {g : Grammar} {e : Expr} {w : String} {ks ks' : List TokenKind}

/-- A word that begins an expression, but neither another statement nor a `match`. -/
def StartsLine (w : String) : Prop := (w = "lambda" ∨ w ∉ Text.reservedWords) ∧ w ≠ "match"

theorem StartsLine.ne {v : String} (h : StartsLine w) (hv : v ∈ Text.reservedWords) (hne : v ≠ "lambda") : w ≠ v := by
  rintro rfl
  exact h.1.elim hne fun hnot => hnot hv

theorem takes_expressionStatement (hw : StartsLine w) (hkinds : e.kinds = .word w :: ks) (h : g.Recovers e)
    (ks' : List TokenKind) :
    (expressionStatement g).Takes (.word w :: (ks ++ .newline :: ks')) (· = .expr e) (.newline :: ks') := by
  have hsound := Closes.newline.sound
  have hexpression := h .newline ks' .newline
  rw [hkinds, List.cons_append] at hexpression
  have hitem : (starredOr g g.primary g.expression).Takes (.word w :: (ks ++ .newline :: ks')) (· = e)
      (.newline :: ks') := .skipOp sound_word rfl hexpression
  have htuple : (tupleAfter g (starredOr g g.primary g.expression) e).Takes (.newline :: ks') (· = e)
      (.newline :: ks') := (takes_atOp hsound).then (takes_pure rfl)
  have hassignable : (assignable g).Takes (.word w :: (ks ++ .newline :: ks')) (· = e) (.newline :: ks') :=
    .skipWord sound_word (beq_eq_false_iff_ne.2 (hw.ne (by decide) (by decide))) (hitem.then htuple)
  refine (takes_atOp sound_word).then (hassignable.then ((takes_atOp hsound).then ((takes_atOp hsound).then ?_)))
  refine (takes_peek hsound).bind fun t ht => ?_
  rw [ht]
  exact takes_pure rfl

theorem takes_simple (hw : StartsLine w) (h : (expressionStatement g).Takes (.word w :: ks) (· = .expr e) ks') :
    (simple g).Takes (.word w :: ks) (· = .expr e) ks' := by
  have hall : ∀ v ∈ ["return", "import", "from", "raise", "pass", "del", "assert", "break", "continue", "global",
      "nonlocal"], v ∈ Text.reservedWords ∧ v ≠ "lambda" := by decide
  have hne : ∀ v ∈ ["return", "import", "from", "raise", "pass", "del", "assert", "break", "continue", "global",
      "nonlocal"], isWord v (.word w) = false := fun v hv =>
    beq_eq_false_iff_ne.2 (hw.ne (hall v hv).1 (hall v hv).2)
  simp only [List.forall_mem_cons] at hne
  refine (takes_peek sound_word).bind fun t ht => ?_
  rw [ht]
  simp only [hne, Bool.false_eq_true, if_false]
  exact h

theorem takes_statement {P : List Stmt → Prop} (hw : StartsLine w)
    (h : (simpleLine g g.limit).Takes (.word w :: ks) P ks') : (statement g).Takes (.word w :: ks) P ks' := by
  refine (takes_here sound_word).bind fun start _ => (takes_peek sound_word).bind fun t ht => ?_
  rw [ht]
  split <;> rename_i heq
  -- all cases but one are those of the words that begin a statement of their own
  case h_11 => exact h
  all_goals cases heq <;> simp [StartsLine, Text.reservedWords] at hw

/-- The tokens of an expression on a line of its own are read as one statement, the expression. -/
theorem takes_readTree (hw : StartsLine w) (hkinds : e.kinds = .word w :: ks) (h : g.Recovers e)
    (hlimit : 1 < g.limit) :
    (readTree g).Takes (e.kinds ++ [.newline, .ending]) (fun t => ∃ span, t = [.simple span (.expr e)]) [.ending] := by
  obtain ⟨limit, hlimit⟩ := Nat.exists_eq_add_of_le' hlimit
  have hnewline := Closes.newline.sound
  have hending : Sound .ending := nofun
  have hcontent := takes_simple hw (takes_expressionStatement hw hkinds h [.ending])
  have hexpect : expectNewline.Takes [.newline, .ending] (· = ()) [.ending] := by
    refine (takes_peek hnewline).bind fun t ht => ?_
    rw [ht]
    exact takes_advance
  have hline : (simpleLine g g.limit).Takes (.word w :: (ks ++ [.newline, .ending]))
      (fun ss => ∃ span, ss = [.simple span (.expr e)]) [.ending] := by
    rw [hlimit]
    refine (takes_here sound_word).bind fun start _ => hcontent.then (takes_lastEnd.bind fun stop _ => ?_)
    exact .skipOp hnewline rfl (hexpect.then (takes_pure ⟨_, rfl⟩))
  have hrest : (statements g (limit + 1)).Takes [.ending] (· = []) [.ending] := by
    refine (takes_peek hending).bind fun t ht => ?_
    rw [ht]
    exact takes_pure rfl
  have hbody : (statements g g.limit).Takes (.word w :: (ks ++ [.newline, .ending]))
      (fun ss => ∃ span, ss = [.simple span (.expr e)]) [.ending] := by
    rw [hlimit]
    refine (takes_peek sound_word).bind fun t ht => ?_
    rw [ht]
    refine (takes_statement hw hline).bind ?_
    rintro _ ⟨span, rfl⟩
    exact hrest.then (takes_pure ⟨span, rfl⟩)
  rw [hkinds]
  refine hbody.bind fun body hbody => (takes_peek hending).bind fun t ht => ?_
  rw [ht]
  exact takes_pure hbody

end Grammar

/-- A text that has the tokens of a generated expression is parsed as one statement, the expression. -/
theorem Tree.parse_of_map_kind {source : List Char} {e : Expr} {w : String} {ks : List TokenKind}
    (hscan : (Token.scan source).map Token.kind = e.kinds ++ [.newline, .ending])
    (hlength : e.kinds.length ≤ source.length) (he : ∀ n, e.Generated (n + 8)) (hkinds : e.kinds = .word w :: ks)
    (hw : Grammar.StartsLine w) : ∃ span, parse source = .ok [.simple span (.expr e)] := by
  -- the grammar has a bound and a depth that grow with the source, so both are great enough
  have hlimit : e.kinds.length ≤ source.length + 4 := Nat.le_add_right_of_le hlength
  have hrecovers := (he (2 * source.length)).recovers hlimit
  have htakes := Grammar.takes_readTree hw hkinds hrecovers (by rw [Grammar.limit_levels]; omega)
  obtain ⟨t, c, ⟨_, hrun⟩, ⟨span, rfl⟩, -⟩ := htakes ⟨Token.scan source, ⟨1, 0⟩⟩ hscan
  refine ⟨span, ?_⟩
  rw [parse]
  simp only [Nat.mul_add, Nat.reduceMul, hrun]

end Crosswalk

import Crosswalk.Grammar.Statement
import Crosswalk.Proofs.Grammar.Reads
import Crosswalk.Proofs.Token.Order
import Crosswalk.Proofs.Tree.Walk

/-!
# The order of statements

A parsed source has its statements in the order of the places where they begin, `Tree.inOrder_parse`. A statement
begins where a token does. What comes after it begins later, for between the two stands an operator or the end of
a line: the colon of a block in front of its suites, a semicolon or a line end in front of the next statement.
-/

namespace Crosswalk

/-- The statements of a tree stand in the order of the places where they begin. -/
def Tree.InOrder (t : Tree) : Prop := (flattenAll t).Pairwise fun a b => a.span.start.Before b.span.start

namespace Token

variable {ts ts' ts'' : List Token} {t : Token}

theorem InOrder.of_suffix (h : InOrder ts) (hts : ts' <:+ ts) : InOrder ts' := h.sublist hts.sublist

/-- The tokens that are left are behind an operator or the end of a line. -/
def Parted (ts ts' : List Token) : Prop := ∃ t : Token, t.kind.divides = true ∧ t :: ts' <:+ ts

theorem Parted.suffix (h : Parted ts ts') : ts' <:+ ts := by
  obtain ⟨t, -, ht⟩ := h
  exact (List.suffix_cons t ts').trans ht

theorem Parted.of_suffix (h : Parted ts' ts'') (hts : ts' <:+ ts) : Parted ts ts'' := by
  obtain ⟨t, hdivides, ht⟩ := h
  exact ⟨t, hdivides, ht.trans hts⟩

/-- Behind an operator or the end of a line everything begins later than what comes first. -/
theorem Parted.before (h : Parted (t :: ts) ts') (hts : InOrder (t :: ts)) :
    ∀ u ∈ ts', t.start.Before u.start := by
  intro u hu
  obtain ⟨d, hdivides, hd⟩ := h
  have hdu : d.start.Before u.start := (List.pairwise_cons.1 (hts.of_suffix hd)).1 u hu |>.2 hdivides
  rcases List.mem_cons.1 (hd.subset List.mem_cons_self) with rfl | hmem
  · exact hdu
  · exact ((List.pairwise_cons.1 hts).1 d hmem).1.trans_before hdu

end Token

open Token

/-! ## Statements between tokens -/

/-- Statements that are read off some tokens: they stand in order, each begins where a token does, and before
all tokens that are left. There is no comment among them. -/
structure Laid (ts : List Token) (ss : List Stmt) (ts' : List Token) : Prop where
  suffix : ts' <:+ ts
  isBare : Tree.IsBare ss
  begins : ∀ s ∈ flattenAll ss, ∃ t ∈ ts, t.start = s.span.start
  ends : ∀ s ∈ flattenAll ss, ∀ t ∈ ts', s.span.start.Before t.start
  inOrder : Tree.InOrder ss

/-- Statements that are read off behind an operator or the end of a line. -/
def LaidBehind (ts : List Token) (ss : List Stmt) (ts' : List Token) : Prop :=
  ∃ ts₁, Parted ts ts₁ ∧ Laid ts₁ ss ts'

section

variable {ts ts₁ ts' ts'' : List Token} {ss ss' : List Stmt} {s : Stmt} {t : Token}

namespace Laid

theorem nil (h : ts' <:+ ts) : Laid ts [] ts' :=
  ⟨h, by simp [Tree.IsBare, flattenAll], by simp [flattenAll], by simp [flattenAll], List.Pairwise.nil⟩

theorem append (h : Laid ts ss ts') (h' : Laid ts' ss' ts'') : Laid ts (ss ++ ss') ts'' := by
  refine ⟨h'.suffix.trans h.suffix, fun s hs => ?_, fun s hs => ?_, fun s hs t ht => ?_, ?_⟩
  · rw [flattenAll_append] at hs
    rcases List.mem_append.1 hs with hs | hs
    · exact h.isBare s hs
    · exact h'.isBare s hs
  · rw [flattenAll_append] at hs
    rcases List.mem_append.1 hs with hs | hs
    · exact h.begins s hs
    · obtain ⟨t, ht, heq⟩ := h'.begins s hs
      exact ⟨t, h.suffix.subset ht, heq⟩
  · rw [flattenAll_append] at hs
    rcases List.mem_append.1 hs with hs | hs
    · exact h.ends s hs t (h'.suffix.subset ht)
    · exact h'.ends s hs t ht
  · rw [Tree.InOrder, flattenAll_append, List.pairwise_append]
    refine ⟨h.inOrder, h'.inOrder, fun a ha b hb => ?_⟩
    obtain ⟨t, ht, heq⟩ := h'.begins b hb
    exact heq ▸ h.ends a ha t ht

/-- Tokens may come first that give no statement. -/
theorem of_suffix (h : Laid ts' ss ts'') (hts : ts' <:+ ts) : Laid ts ss ts'' := (nil hts).append h

/-- Tokens may follow that give no statement. -/
theorem skip (h : Laid ts ss ts') (hts : ts'' <:+ ts') : Laid ts ss ts'' := by
  rw [← List.append_nil ss]
  exact h.append (nil hts)

end Laid

namespace LaidBehind

theorem laid (h : LaidBehind ts ss ts') : Laid ts ss ts' := by
  obtain ⟨ts₁, hparted, hlaid⟩ := h
  exact hlaid.of_suffix hparted.suffix

theorem of_suffix (h : LaidBehind ts' ss ts'') (hts : ts' <:+ ts) : LaidBehind ts ss ts'' := by
  obtain ⟨ts₁, hparted, hlaid⟩ := h
  exact ⟨ts₁, hparted.of_suffix hts, hlaid⟩

theorem append (h : LaidBehind ts ss ts') (h' : Laid ts' ss' ts'') : LaidBehind ts (ss ++ ss') ts'' := by
  obtain ⟨ts₁, hparted, hlaid⟩ := h
  exact ⟨ts₁, hparted, hlaid.append h'⟩

/-- A statement that begins at the first token, with what is in it behind an operator or the end of a line. -/
theorem cons (h : LaidBehind ts s.children ts') (hts : InOrder ts) (hbare : s.isComment = false)
    (hs : ∃ t rest, ts = t :: rest ∧ t.start = s.span.start) : Laid ts [s] ts' := by
  obtain ⟨t, rest, rfl, hstart⟩ := hs
  obtain ⟨ts₁, hparted, hlaid⟩ := h
  have hbefore := hparted.before hts
  rw [hstart] at hbefore
  have hflatten : flattenAll [s] = s :: flattenAll s.children := by
    rw [flattenAll, flattenAll, List.append_nil, s.flatten_eq_cons]
  refine ⟨hlaid.suffix.trans hparted.suffix, fun s' hs' => ?_, fun s' hs' => ?_, fun s' hs' u hu => ?_, ?_⟩
  · rw [hflatten] at hs'
    rcases List.mem_cons.1 hs' with rfl | hs'
    · exact hbare
    · exact hlaid.isBare s' hs'
  · rw [hflatten] at hs'
    rcases List.mem_cons.1 hs' with rfl | hs'
    · exact ⟨t, List.mem_cons_self, hstart⟩
    · exact (hlaid.of_suffix hparted.suffix).begins s' hs'
  · rw [hflatten] at hs'
    rcases List.mem_cons.1 hs' with rfl | hs'
    · exact hbefore u (hlaid.suffix.subset hu)
    · exact hlaid.ends s' hs' u hu
  · rw [Tree.InOrder, hflatten, List.pairwise_cons]
    refine ⟨fun s' hs' => ?_, hlaid.inOrder⟩
    obtain ⟨u, hu, heq⟩ := hlaid.begins s' hs'
    exact heq ▸ hbefore u hu

end LaidBehind

end

namespace Grammar

open Reader

/-! ## Readers of statements -/

variable {α β : Type} {g : Grammar} {c c' : Cursor} {p : Pos}

/-- A reader of what holds some statements. It gives them in order. -/
def Lays (stmts : α → List Stmt) (r : Reader α) : Prop :=
  ∀ c a c', InOrder c.tokens → r.Reads c a c' → Laid c.tokens (stmts a) c'.tokens

/-- A reader of a suite. Its statements come behind an operator or the end of a line. -/
def LaysSuite (r : Reader (List Stmt)) : Prop :=
  ∀ c ss c', InOrder c.tokens → r.Reads c ss c' → LaidBehind c.tokens ss c'.tokens

/-- A reader of a block that begins at the place given. Its suites come behind an operator or the end of a line. -/
def LaysBlock (p : Pos) (r : Reader Stmt) : Prop :=
  ∀ c s c', InOrder c.tokens → r.Reads c s c' →
    s.span.start = p ∧ s.isComment = false ∧ LaidBehind c.tokens s.children c'.tokens

/-- What is read before the block gives no statement. -/
theorem LaysBlock.bind {r : Reader α} {f : α → Reader Stmt} (h : ∀ a, LaysBlock p (f a)) :
    LaysBlock p (r >>= f) := by
  intro c s c' hc hreads
  obtain ⟨a, c₁, hr, hf⟩ := reads_bind_iff.1 hreads
  obtain ⟨hs, hbare, hlaid⟩ := h a c₁ s c' (hc.of_suffix hr.suffix) hf
  exact ⟨hs, hbare, hlaid.of_suffix hr.suffix⟩

theorem Lays.bind {stmts : β → List Stmt} {r : Reader α} {f : α → Reader β} (h : ∀ a, Lays stmts (f a)) :
    Lays stmts (r >>= f) := by
  intro c b c' hc hreads
  obtain ⟨a, c₁, hr, hf⟩ := reads_bind_iff.1 hreads
  exact (h a c₁ b c' (hc.of_suffix hr.suffix) hf).of_suffix hr.suffix

/-- A block that begins at the next token. -/
theorem lays_here {f : Pos → Reader Stmt} (h : ∀ p, LaysBlock p (f p)) : Lays (fun s => [s]) (here >>= f) := by
  intro c s c' hc hreads
  obtain ⟨p, c₁, hhere, hf⟩ := reads_bind_iff.1 hreads
  obtain ⟨rfl, t, rest, htokens, rfl⟩ := hhere.here
  obtain ⟨hs, hbare, hlaid⟩ := h t.start c₁ s c' hc hf
  exact hlaid.cons hc hbare ⟨t, rest, htokens, hs.symm⟩

theorem lays_many {r : Reader (Option Stmt)} (h : Lays Option.toList r) (limit : Nat) :
    Lays id (many r limit) := by
  induction limit with
  | zero =>
    intro c ss c' _ hreads
    obtain ⟨rfl, rfl⟩ := reads_pure_iff.1 hreads
    exact .nil List.suffix_rfl
  | succ limit ih =>
    intro c ss c' hc hreads
    rw [many, reads_bind_iff] at hreads
    obtain ⟨first?, c₁, hr, hreads⟩ := hreads
    have hfirst := h c first? c₁ hc hr
    cases first? with
    | none =>
      obtain ⟨rfl, rfl⟩ := reads_pure_iff.1 hreads
      exact hfirst
    | some s =>
      simp only [reads_bind_iff, reads_pure_iff] at hreads
      obtain ⟨more, c₂, hmore, rfl, rfl⟩ := hreads
      exact hfirst.append (ih _ _ _ (hc.of_suffix hr.suffix) hmore)

theorem parted_of_expectOp {s : String} {u : Unit} (h : (expectOp s).Reads c u c') :
    Parted c.tokens c'.tokens := by
  obtain ⟨t, htokens, ht⟩ := h.expectOp
  exact ⟨t, by rw [ht]; rfl, htokens ▸ List.suffix_rfl⟩

theorem parted_of_expectNewline {u : Unit} (h : expectNewline.Reads c u c') : Parted c.tokens c'.tokens := by
  rw [expectNewline, reads_bind_iff] at h
  obtain ⟨t, c₁, hpeek, h⟩ := h
  obtain ⟨rfl, rest, hrest⟩ := hpeek.peek
  split at h
  · rename_i ht
    refine ⟨t, by rw [ht]; rfl, ?_⟩
    rw [h.advance, hrest]
    exact List.suffix_rfl
  · exact absurd h not_reads_unexpected

/-- Behind the head of a `match` its line ends. -/
theorem parted_of_matchHead {subject : Expr} (h : (matchHead g).Reads c subject c') :
    Parted c.tokens c'.tokens := by
  simp only [matchHead, reads_bind_iff] at h
  obtain ⟨first, c₁, hfirst, subject, c₂, hsubject, h⟩ := h
  split at h
  · simp [reads_bind_iff] at h
  · simp only [reads_bind_iff, reads_pure_iff] at h
    obtain ⟨_, c₃, hcolon, _, c₄, hnewline, rfl, rfl⟩ := h
    exact (parted_of_expectNewline hnewline).of_suffix
      (hcolon.suffix.trans (hsubject.suffix.trans hfirst.suffix))

/-! ## Lines and suites -/

/-- The statements of a line are parted by semicolons, and the line ends behind them. -/
theorem lays_simpleLine (g : Grammar) (limit : Nat) : Lays id (simpleLine g limit) := by
  induction limit with
  | zero => exact fun c ss c' _ hreads => absurd hreads not_reads_reject
  | succ limit ih =>
    intro c ss c' hc hreads
    simp only [simpleLine, reads_bind_iff] at hreads
    obtain ⟨start, c₁, hhere, content, c₂, hsimple, stop, c₃, hstop, isParted, c₄, haccept, hreads⟩ := hreads
    obtain ⟨rfl, t, rest, htokens, rfl⟩ := hhere.here
    obtain rfl := hstop.lastEnd
    have haccept := haccept.acceptOp
    have hfirst {ts : List Token} (h : Parted c₁.tokens ts) :
        Laid c₁.tokens [.simple (.ofPos t.start stop) content] ts :=
      LaidBehind.cons ⟨ts, h, .nil List.suffix_rfl⟩ hc rfl ⟨t, rest, htokens, rfl⟩
    split at hreads
    · rename_i hparted
      rw [if_pos hparted] at haccept
      obtain ⟨u, hu, hkind⟩ := haccept
      have hline := hfirst ⟨u, by rw [hkind]; rfl, hu ▸ hsimple.suffix⟩
      rw [reads_bind_iff] at hreads
      obtain ⟨v, c₅, hpeek, hreads⟩ := hreads
      obtain ⟨rfl, -⟩ := hpeek.peek
      split at hreads
      · simp only [reads_bind_iff, reads_pure_iff] at hreads
        obtain ⟨_, c₆, hadvance, rfl, rfl⟩ := hreads
        exact hline.skip hadvance.suffix
      · simp only [reads_bind_iff, reads_pure_iff] at hreads
        obtain ⟨more, c₆, hmore, rfl, rfl⟩ := hreads
        exact hline.append (ih _ more _ (hc.of_suffix hline.suffix) hmore)
    · rename_i hparted
      rw [if_neg hparted] at haccept
      obtain rfl := haccept
      simp only [reads_bind_iff, reads_pure_iff] at hreads
      obtain ⟨_, c₅, hnewline, rfl, rfl⟩ := hreads
      exact hfirst ((parted_of_expectNewline hnewline).of_suffix hsimple.suffix)

theorem laysSuite_suiteOf (hg : Lays id g.suite) : LaysSuite (suiteOf g) := by
  intro c ss c' hc hreads
  simp only [suiteOf, reads_bind_iff] at hreads
  obtain ⟨_, c₁, hcolon, t, c₂, hpeek, hreads⟩ := hreads
  refine ⟨c₁.tokens, parted_of_expectOp hcolon, ?_⟩
  obtain ⟨rfl, -⟩ := hpeek.peek
  have hc₂ := hc.of_suffix hcolon.suffix
  split at hreads
  · exact Lays.bind (fun _ => Lays.bind fun _ => hg) _ _ _ hc₂ hreads
  · exact lays_simpleLine g g.limit _ _ _ hc₂ hreads

theorem lays_suiteAfter (hg : Lays id g.suite) (word : String) : Lays id (suiteAfter g word) := by
  intro c ss c' hc hreads
  rw [suiteAfter, reads_bind_iff] at hreads
  obtain ⟨found, c₁, hword, hreads⟩ := hreads
  split at hreads
  · exact (laysSuite_suiteOf hg _ _ _ (hc.of_suffix hword.suffix) hreads).laid.of_suffix hword.suffix
  · obtain ⟨rfl, rfl⟩ := reads_pure_iff.1 hreads
    exact .nil hword.suffix

/-! ## Blocks -/

section

variable (hg : Lays id g.suite)

include hg

theorem laysBlock_plainBlock (p : Pos) (head : Head) : LaysBlock p (plainBlock g p head) := by
  intro c s c' hc hreads
  simp only [plainBlock, reads_bind_iff, reads_pure_iff] at hreads
  obtain ⟨body, c₁, hbody, stop, c₂, hstop, rfl, rfl⟩ := hreads
  obtain rfl := hstop.lastEnd
  refine ⟨rfl, rfl, ?_⟩
  simpa [Stmt.children] using laysSuite_suiteOf hg _ _ _ hc hbody

theorem laysBlock_loopBlock (p : Pos) (head : Head) : LaysBlock p (loopBlock g p head) := by
  intro c s c' hc hreads
  simp only [loopBlock, reads_bind_iff, reads_pure_iff] at hreads
  obtain ⟨body, c₁, hbody, orelse, c₂, horelse, stop, c₃, hstop, rfl, rfl⟩ := hreads
  obtain rfl := hstop.lastEnd
  have hlaid := (laysSuite_suiteOf hg _ _ _ hc hbody).append
    (lays_suiteAfter hg "else" _ _ _ (hc.of_suffix hbody.suffix) horelse)
  refine ⟨rfl, rfl, ?_⟩
  simpa [Stmt.children] using hlaid

/-- The `elif` parts stand inside one another, with the `else` suite innermost. -/
theorem lays_elifs (stop : Pos) (limit : Nat) :
    Lays (fun parts => nestElifs stop parts.2 parts.1) (elifs g limit) := by
  induction limit with
  | zero => exact fun c parts c' _ hreads => absurd hreads not_reads_reject
  | succ limit ih =>
    intro c parts c' hc hreads
    simp only [elifs, reads_bind_iff] at hreads
    obtain ⟨start, c₁, hhere, found, c₂, hword, hreads⟩ := hreads
    obtain ⟨rfl, t, rest, htokens, rfl⟩ := hhere.here
    split at hreads
    · simp only [reads_bind_iff, reads_pure_iff] at hreads
      obtain ⟨test, c₃, htest, body, c₄, hbody, more, c₅, hmore, rfl, rfl⟩ := hreads
      have hsuffix := htest.suffix.trans hword.suffix
      have hc₃ := hc.of_suffix hsuffix
      have hlaid := (laysSuite_suiteOf hg _ _ _ hc₃ hbody).append
        (ih _ _ _ (hc₃.of_suffix hbody.suffix) hmore)
      refine LaidBehind.cons ?_ hc rfl ⟨t, rest, htokens, rfl⟩
      simpa [Stmt.children] using hlaid.of_suffix hsuffix
    · simp only [reads_bind_iff, reads_pure_iff] at hreads
      obtain ⟨orelse, c₃, horelse, rfl, rfl⟩ := hreads
      exact (lays_suiteAfter hg "else" _ _ _ (hc.of_suffix hword.suffix) horelse).of_suffix hword.suffix

theorem laysBlock_ifBlock (p : Pos) : LaysBlock p (ifBlock g p) := by
  refine .bind fun test => ?_
  intro c s c' hc hreads
  simp only [reads_bind_iff, reads_pure_iff] at hreads
  obtain ⟨body, c₁, hbody, parts, c₂, hparts, stop, c₃, hstop, rfl, rfl⟩ := hreads
  obtain rfl := hstop.lastEnd
  have hlaid := (laysSuite_suiteOf hg _ _ _ hc hbody).append
    (lays_elifs hg stop _ _ _ _ (hc.of_suffix hbody.suffix) hparts)
  refine ⟨rfl, rfl, ?_⟩
  simpa [Stmt.children] using hlaid

theorem laysBlock_whileBlock (p : Pos) : LaysBlock p (whileBlock g p) :=
  .bind fun _ => laysBlock_loopBlock hg p _

theorem laysBlock_forBlock (p : Pos) (isAsync : Bool) : LaysBlock p (forBlock g p isAsync) :=
  .bind fun _ => .bind fun _ => .bind fun _ => laysBlock_loopBlock hg p _

theorem laysBlock_withBlock (p : Pos) (isAsync : Bool) : LaysBlock p (withBlock g p isAsync) :=
  .bind fun _ => laysBlock_plainBlock hg p _

theorem laysBlock_functionBlock (p : Pos) (isAsync : Bool) (decorators : List Expr) :
    LaysBlock p (functionBlock g p isAsync decorators) :=
  .bind fun _ => .bind fun _ => .bind fun _ => .bind fun _ => .bind fun _ => laysBlock_plainBlock hg p _

theorem laysBlock_classBlock (p : Pos) (decorators : List Expr) : LaysBlock p (classBlock g p decorators) := by
  refine .bind fun _ => .bind fun isCalled => ?_
  split
  all_goals exact .bind fun _ => laysBlock_plainBlock hg p _

/-- A handler begins at its word. -/
theorem lays_handler : Lays (fun s => [s]) (handler g) := by
  refine lays_here fun p => .bind fun _ => .bind fun isGroup => .bind fun isBare => ?_
  split
  · exact laysBlock_plainBlock hg p _
  · exact .bind fun type => .bind fun bound => laysBlock_plainBlock hg p _

theorem lays_handlers (limit : Nat) : Lays id (many (optional (atWord "except") (handler g)) limit) := by
  refine lays_many ?_ limit
  intro c handler? c' hc hreads
  rw [Reader.optional, reads_bind_iff] at hreads
  obtain ⟨found, c₁, hword, hreads⟩ := hreads
  split at hreads
  · simp only [reads_bind_iff, reads_pure_iff] at hreads
    obtain ⟨s, c₂, hs, rfl, rfl⟩ := hreads
    exact (lays_handler hg _ _ _ (hc.of_suffix hword.suffix) hs).of_suffix hword.suffix
  · obtain ⟨rfl, rfl⟩ := reads_pure_iff.1 hreads
    exact .nil hword.suffix

theorem laysBlock_tryBlock (p : Pos) : LaysBlock p (tryBlock g p) := by
  intro c s c' hc hreads
  simp only [tryBlock, reads_bind_iff] at hreads
  obtain ⟨body, c₁, hbody, handlers, c₂, hhandlers, hreads⟩ := hreads
  have hc₁ := hc.of_suffix hbody.suffix
  have hc₂ := hc₁.of_suffix hhandlers.suffix
  have hlaid := (laysSuite_suiteOf hg _ _ _ hc hbody).append (lays_handlers hg g.limit _ _ _ hc₁ hhandlers)
  have hend {orelse final : List Stmt} {c₃ c₄ c₅ : Cursor} {found : Bool}
      (horelse : Laid c₂.tokens orelse c₃.tokens) (hat : (atWord "finally").Reads c₃ found c₄)
      (hfinal : (suiteAfter g "finally").Reads c₄ final c₅) :
      LaidBehind c.tokens (body ++ handlers ++ orelse ++ final) c₅.tokens := by
    have hc₄ := hc₂.of_suffix (hat.suffix.trans horelse.suffix)
    exact (hlaid.append horelse).append ((lays_suiteAfter hg _ _ _ _ hc₄ hfinal).of_suffix hat.suffix)
  split at hreads
  · simp [reads_bind_iff] at hreads
  -- with handlers there may be an `else` suite, and without there is a `finally` suite
  split at hreads
  · simp only [reads_bind_iff, reads_pure_iff] at hreads
    obtain ⟨orelse, c₃, ⟨rfl, rfl⟩, hasFinal, c₄, hat, hreads⟩ := hreads
    split at hreads
    · simp [reads_bind_iff] at hreads
    · simp only [reads_bind_iff, reads_pure_iff] at hreads
      obtain ⟨final, c₅, hfinal, stop, c₆, hstop, rfl, rfl⟩ := hreads
      obtain rfl := hstop.lastEnd
      exact ⟨rfl, rfl, hend (.nil List.suffix_rfl) hat hfinal⟩
  · simp only [reads_bind_iff] at hreads
    obtain ⟨orelse, c₃, horelse, hasFinal, c₄, hat, hreads⟩ := hreads
    split at hreads
    · simp [reads_bind_iff] at hreads
    · simp only [reads_bind_iff, reads_pure_iff] at hreads
      obtain ⟨final, c₅, hfinal, stop, c₆, hstop, rfl, rfl⟩ := hreads
      obtain rfl := hstop.lastEnd
      exact ⟨rfl, rfl, hend (lays_suiteAfter hg _ _ _ _ hc₂ horelse) hat hfinal⟩

/-- A decorated block begins behind its decorators. -/
theorem lays_decorated : Lays (fun s => [s]) (decorated g) := by
  refine .bind fun decorators => lays_here fun p => .bind fun isClass => ?_
  split
  · exact laysBlock_classBlock hg p decorators
  · exact .bind fun isAsync => .bind fun _ => laysBlock_functionBlock hg p isAsync decorators

/-- A case begins at its pattern. -/
theorem lays_caseBlock : Lays (fun s => [s]) (caseBlock g) := by
  refine .bind fun _ => lays_here fun p => .bind fun pattern => .bind fun guard => .bind fun stop => ?_
  intro c s c' hc hreads
  simp only [reads_bind_iff, reads_pure_iff] at hreads
  obtain ⟨body, c₁, hbody, rfl, rfl⟩ := hreads
  refine ⟨rfl, rfl, ?_⟩
  simpa [Stmt.children] using laysSuite_suiteOf hg _ _ _ hc hbody

theorem lays_cases (limit : Nat) : Lays id (cases g limit) := by
  induction limit with
  | zero => exact fun c ss c' _ hreads => absurd hreads not_reads_reject
  | succ limit ih =>
    intro c ss c' hc hreads
    simp only [cases, reads_bind_iff] at hreads
    obtain ⟨first, c₁, hfirst, t, c₂, hpeek, hreads⟩ := hreads
    obtain ⟨rfl, -⟩ := hpeek.peek
    have hlaid := lays_caseBlock hg _ _ _ hc hfirst
    split at hreads
    · simp only [reads_bind_iff, reads_pure_iff] at hreads
      obtain ⟨_, c₃, hadvance, rfl, rfl⟩ := hreads
      exact hlaid.skip hadvance.suffix
    · simp only [reads_bind_iff, reads_pure_iff] at hreads
      obtain ⟨more, c₃, hmore, rfl, rfl⟩ := hreads
      exact hlaid.append (ih _ _ _ (hc.of_suffix hfirst.suffix) hmore)

/-- A `match` has its cases behind the line with its head. -/
theorem lays_matchOrLine (hopen : ∃ t rest, c.tokens = t :: rest ∧ t.start = p) (hc : InOrder c.tokens)
    {ss : List Stmt} (hreads : (matchOrLine g p).Reads c ss c') : Laid c.tokens ss c'.tokens := by
  rw [matchOrLine, reads_bind_iff] at hreads
  obtain ⟨subject?, c₁, hsubject, hreads⟩ := hreads
  have hc₁ := hc.of_suffix hsubject.suffix
  cases subject? with
  | some subject =>
    have hparted : Parted c.tokens c₁.tokens := by
      rcases hsubject.orElse with h | h
      · simp only [reads_bind_iff, reads_pure_iff] at h
        obtain ⟨_, c₂, hadvance, subject', c₃, hhead, -, rfl⟩ := h
        exact (parted_of_matchHead hhead).of_suffix hadvance.suffix
      · cases (reads_pure_iff.1 h).1
    simp only [reads_bind_iff, reads_pure_iff] at hreads
    obtain ⟨_, c₂, hindent, body, c₃, hbody, stop, c₄, hstop, rfl, rfl⟩ := hreads
    obtain rfl := hstop.lastEnd
    have hcases := lays_cases hg g.limit _ _ _ (hc₁.of_suffix hindent.suffix) hbody
    refine LaidBehind.cons ⟨c₁.tokens, hparted, ?_⟩ hc rfl hopen
    simpa [Stmt.children] using hcases.of_suffix hindent.suffix
  | none => exact (lays_simpleLine g g.limit _ _ _ hc₁ hreads).of_suffix hsubject.suffix

theorem lays_statement : Lays id (statement g) := by
  intro c ss c' hc hreads
  simp only [statement, reads_bind_iff] at hreads
  obtain ⟨start, c₁, hhere, t', c₂, hpeek, hreads⟩ := hreads
  obtain ⟨rfl, t, rest, htokens, rfl⟩ := hhere.here
  obtain ⟨rfl, -⟩ := hpeek.peek
  have hone {r : Reader Stmt} {c₁ : Cursor} (hr : LaysBlock t.start r) (hc₁ : c₁.tokens <:+ c₂.tokens)
      (h : (r >>= fun s => pure [s]).Reads c₁ ss c') : Laid c₂.tokens ss c'.tokens := by
    simp only [reads_bind_iff, reads_pure_iff] at h
    obtain ⟨s, c₃, hs, rfl, rfl⟩ := h
    obtain ⟨hstart, hbare, hlaid⟩ := hr _ _ _ (hc.of_suffix hc₁) hs
    exact (hlaid.of_suffix hc₁).cons hc hbare ⟨t, rest, htokens, hstart.symm⟩
  have hafter {r : Reader Stmt} (hr : LaysBlock t.start r)
      (h : (advance >>= fun _ => r >>= fun s => pure [s]).Reads c₂ ss c') : Laid c₂.tokens ss c'.tokens := by
    obtain ⟨_, c₁, hadvance, h⟩ := reads_bind_iff.1 h
    exact hone hr hadvance.suffix h
  split at hreads
  · exact hafter (laysBlock_ifBlock hg _) hreads
  · exact hafter (laysBlock_whileBlock hg _) hreads
  · exact hafter (laysBlock_forBlock hg _ false) hreads
  · exact hafter (laysBlock_withBlock hg _ false) hreads
  · exact hafter (laysBlock_tryBlock hg _) hreads
  · exact hafter (laysBlock_functionBlock hg _ false []) hreads
  · exact hafter (laysBlock_classBlock hg _ []) hreads
  · simp only [reads_bind_iff, reads_pure_iff] at hreads
    obtain ⟨s, c₁, hs, rfl, rfl⟩ := hreads
    exact lays_decorated hg _ _ _ hc hs
  -- behind `async` stands one of three words
  · simp only [reads_bind_iff] at hreads
    obtain ⟨_, c₃, hadvance, isDef, c₄, hdef, hreads⟩ := hreads
    have hc₄ := hdef.suffix.trans hadvance.suffix
    split at hreads
    · exact hone (laysBlock_functionBlock hg _ true []) hc₄ hreads
    · obtain ⟨isFor, c₅, hfor, hreads⟩ := reads_bind_iff.1 hreads
      have hc₅ := hfor.suffix.trans hc₄
      split at hreads
      · exact hone (laysBlock_forBlock hg _ true) hc₅ hreads
      · obtain ⟨_, c₆, hwith, hreads⟩ := reads_bind_iff.1 hreads
        exact hone (laysBlock_withBlock hg _ true) (hwith.suffix.trans hc₅) hreads
  · exact lays_matchOrLine hg ⟨t, rest, htokens, rfl⟩ hc hreads
  · exact lays_simpleLine g g.limit _ _ _ hc hreads

/-! ## The whole source -/

theorem lays_statements (limit : Nat) : Lays id (statements g limit) := by
  induction limit with
  | zero => exact fun c ss c' _ hreads => absurd hreads not_reads_reject
  | succ limit ih =>
    intro c ss c' hc hreads
    simp only [statements, reads_bind_iff] at hreads
    obtain ⟨t, c₁, hpeek, hreads⟩ := hreads
    obtain ⟨rfl, -⟩ := hpeek.peek
    split at hreads
    · obtain ⟨rfl, rfl⟩ := reads_pure_iff.1 hreads
      exact .nil List.suffix_rfl
    · obtain ⟨rfl, rfl⟩ := reads_pure_iff.1 hreads
      exact .nil List.suffix_rfl
    · simp only [reads_bind_iff, reads_pure_iff] at hreads
      obtain ⟨first, c₂, hfirst, more, c₃, hmore, rfl, rfl⟩ := hreads
      exact (lays_statement hg _ _ _ hc hfirst).append (ih _ _ _ (hc.of_suffix hfirst.suffix) hmore)

theorem lays_suiteRule : Lays id (suiteRule g) := by
  intro c ss c' hc hreads
  simp only [suiteRule, reads_bind_iff] at hreads
  obtain ⟨body, c₁, hbody, t, c₂, hpeek, hreads⟩ := hreads
  have hlaid := lays_statements hg g.limit _ _ _ hc hbody
  split at hreads
  · simp only [reads_bind_iff, reads_pure_iff] at hreads
    obtain ⟨_, c₃, hadvance, rfl, rfl⟩ := hreads
    exact hlaid.skip (hadvance.suffix.trans hpeek.suffix)
  · exact absurd hreads not_reads_unexpected

end

/-- On every level of nesting suites are read in order. -/
theorem lays_suite_levels (limit n : Nat) : Lays id (levels limit n).suite := by
  induction n with
  | zero => exact fun c ss c' _ hreads => absurd hreads not_reads_reject
  | succ n ih => exact lays_suiteRule ih

theorem lays_readTree (hg : Lays id g.suite) : Lays id (readTree g) := by
  intro c t c' hc hreads
  simp only [readTree, reads_bind_iff] at hreads
  obtain ⟨body, c₁, hbody, u, c₂, hpeek, hreads⟩ := hreads
  have hlaid := lays_statements hg g.limit _ _ _ hc hbody
  split at hreads
  · obtain ⟨rfl, rfl⟩ := reads_pure_iff.1 hreads
    exact hlaid.skip hpeek.suffix
  · exact absurd hreads not_reads_unexpected

end Grammar

namespace Tree

variable {source : List Char} {t : Tree}

/-- A source is parsed by reading its tokens. -/
theorem exists_reads_of_parse (h : parse source = .ok t) : ∃ c,
    (readTree (Grammar.levels (source.length + 4) (2 * (source.length + 4)))).Reads ⟨scan source, ⟨1, 0⟩⟩ t c := by
  unfold parse at h
  dsimp only at h
  split at h
  · rename_i tree c hc hrun
    cases h
    exact ⟨c, hc, hrun⟩
  · cases h

theorem exists_laid_parse (h : parse source = .ok t) : ∃ ts, Laid (scan source) t ts := by
  obtain ⟨c, hreads⟩ := exists_reads_of_parse h
  have hlays := Grammar.lays_readTree (Grammar.lays_suite_levels (source.length + 4) (2 * (source.length + 4)))
  exact ⟨c.tokens, hlays _ _ _ (inOrder_scan source) hreads⟩

/-- The statements of a parsed source stand in the order of the places where they begin. -/
theorem inOrder_parse (h : parse source = .ok t) : t.InOrder := by
  obtain ⟨ts, hlaid⟩ := exists_laid_parse h
  exact hlaid.inOrder

theorem isBare_parse (h : parse source = .ok t) : t.IsBare := by
  obtain ⟨ts, hlaid⟩ := exists_laid_parse h
  exact hlaid.isBare

end Tree

end Crosswalk

import Crosswalk.Proofs.Grammar.Gives
import Crosswalk.Proofs.Tree.Read

/-!
# Names in a tree that is read

A statement of its own that is an expression has only references without dots in their names, as far as
`Expr.IsTidy` looks into it: the grammar reads it so, and comments are placed around it. So it is in every tree that
is read, `Tree.isTidy_read`.
-/

namespace Crosswalk

/-- If the statement is an expression, that is tidy. -/
def Simple.IsTidy : Simple → Prop
  | .expr e => e.IsTidy
  | _ => True

/-- If the statement is an expression, that is tidy. -/
def Stmt.IsTidy : Stmt → Prop
  | .simple _ content => content.IsTidy
  | _ => True

namespace Tree

/-- All statements of a tree are tidy. -/
def IsTidy (t : Tree) : Prop := ∀ s ∈ flattenAll t, s.IsTidy

variable {t t' : Tree} {s : Stmt} {span : Span}

theorem isTidy_nil : IsTidy [] := nofun

theorem IsTidy.append (h : t.IsTidy) (h' : t'.IsTidy) : IsTidy (t ++ t') := by
  rw [IsTidy, flattenAll_append]
  exact List.forall_mem_append.2 ⟨h, h'⟩

/-- A statement is tidy with what is in it. -/
theorem isTidy_singleton (hs : s.IsTidy) (h : IsTidy s.children) : IsTidy [s] := by
  rw [IsTidy, flattenAll, flattenAll, List.append_nil, s.flatten_eq_cons]
  exact List.forall_mem_cons.2 ⟨hs, h⟩

/-- A tree is tidy if each of its statements is with what is in it. -/
theorem isTidy_iff_forall : t.IsTidy ↔ ∀ s ∈ t, IsTidy [s] := by
  simp only [IsTidy, flattenAll_eq_flatMap, List.flatMap_singleton, List.mem_flatMap, forall_exists_index, and_imp]
  exact ⟨fun h s hs s' hs' => h s' s hs hs', fun h s' s hs hs' => h s hs s' hs'⟩

theorem isTidy_simple (span : Span) {content : Simple} (h : content.IsTidy) : IsTidy [.simple span content] :=
  isTidy_singleton h isTidy_nil

theorem isTidy_block {head : Head} {body handlers orelse final : List Stmt} (hbody : IsTidy body)
    (hhandlers : IsTidy handlers) (horelse : IsTidy orelse) (hfinal : IsTidy final) :
    IsTidy [.block span head body handlers orelse final] :=
  isTidy_singleton trivial (((hbody.append hhandlers).append horelse).append hfinal)

end Tree

namespace Grammar

open Reader Crosswalk.Tree

variable {g : Grammar} {start : Pos}

/-- A reader of a statement that is tidy with all that is in it. -/
def GivesBlock (r : Reader Stmt) : Prop := Gives (fun s => IsTidy [s]) r

/-! ## Lines -/

theorem gives_assignment (targets : List Expr) (limit : Nat) : Gives Simple.IsTidy (assignment g targets limit) := by
  induction limit generalizing targets with
  | zero => exact gives_reject
  | succ limit ih =>
    refine .after fun _ => .after fun _ => .after fun value => .after fun isMore => ?_
    split
    · split
      · exact ih _
      · exact gives_unexpected
    · exact gives_pure trivial

theorem gives_annotated (target : Expr) (isBare : Bool) : Gives Simple.IsTidy (annotated g target isBare) := by
  refine .after fun _ => .after fun note => .after fun hasValue => ?_
  split
  · exact .after fun _ => .after fun _ => gives_pure trivial
  · exact gives_pure trivial

theorem gives_raised : Gives Simple.IsTidy (raised g) := by
  refine .after fun t => ?_
  split
  · exact .after fun _ => .after fun _ => gives_pure trivial
  · exact gives_pure trivial

theorem gives_deletion : Gives Simple.IsTidy (deletion g) := by
  refine .after fun first => .after fun more => .after fun t => ?_
  split
  · exact gives_pure trivial
  · split
    · exact gives_pure trivial
    · exact gives_unexpected

theorem gives_importFrom : Gives Simple.IsTidy (importFrom g) := by
  refine .after fun level => .after fun isBare => ?_
  dsimp only
  split
  all_goals exact .after fun _ => .after fun _ => .after fun _ => gives_pure trivial

section

variable (hg : Gives Expr.IsTidy g.expression)

include hg

theorem gives_assignable : Gives Expr.IsTidy (assignable g) := by
  refine .after fun isYield => ?_
  split
  · exact gives_yielded
  · exact gives_expressions hg

theorem gives_expressionStatement : Gives Simple.IsTidy (expressionStatement g) := by
  refine .after fun isParenthesized => (gives_assignable hg).bind fun e he => .after fun isAssignment => ?_
  split
  · split
    · exact gives_assignment _ _
    · exact gives_unexpected
  refine .after fun isAnnotated => ?_
  split
  · split
    · exact gives_annotated _ _
    · exact gives_unexpected
  refine .after fun t => ?_
  split
  · split
    · exact .after fun _ => .after fun _ => gives_pure trivial
    · exact gives_unexpected
  · exact gives_pure he

theorem gives_simple : Gives Simple.IsTidy (simple g) := by
  refine .after fun t => ?_
  refine .ite (.after fun _ => .after fun u => ?_) ?_
  · split
    · exact .after fun _ => gives_pure trivial
    · exact gives_pure trivial
  refine .ite (.after fun _ => .after fun _ => gives_pure trivial) ?_
  refine .ite (.after fun _ => gives_importFrom) ?_
  refine .ite (.after fun _ => gives_raised) ?_
  refine .ite (.after fun _ => gives_pure trivial) ?_
  refine .ite (.after fun _ => gives_deletion) ?_
  refine .ite (.after fun _ => .after fun _ => .after fun _ => gives_pure trivial) ?_
  refine .ite (.after fun _ => gives_pure trivial) ?_
  refine .ite (.after fun _ => gives_pure trivial) ?_
  refine .ite (.after fun _ => .after fun _ => gives_pure trivial) ?_
  exact .ite (.after fun _ => .after fun _ => gives_pure trivial) (gives_expressionStatement hg)

theorem gives_simpleLine (limit : Nat) : Gives IsTidy (simpleLine g limit) := by
  induction limit with
  | zero => exact gives_reject
  | succ limit ih =>
    refine .after fun start => (gives_simple hg).bind fun content hcontent => ?_
    refine .after fun stop => .after fun isParted => ?_
    have hline := isTidy_simple (.ofPos start stop) hcontent
    split
    · refine .after fun t => ?_
      split
      · exact .after fun _ => gives_pure hline
      · exact ih.bind fun more hmore => gives_pure (hline.append hmore)
    · exact .after fun _ => gives_pure hline

end

/-! ## Blocks -/

section

variable (hg : Gives Expr.IsTidy g.expression) (hsuite : Gives IsTidy g.suite)

include hg hsuite

theorem gives_suiteOf : Gives IsTidy (suiteOf g) := by
  refine .after fun _ => .after fun t => ?_
  split
  · exact .after fun _ => .after fun _ => hsuite
  · exact gives_simpleLine hg g.limit

theorem gives_suiteAfter (word : String) : Gives IsTidy (suiteAfter g word) := by
  refine .after fun found => ?_
  split
  · exact gives_suiteOf hg hsuite
  · exact gives_pure isTidy_nil

theorem gives_elifs (limit : Nat) :
    Gives (fun parts => ∀ stop, IsTidy (nestElifs stop parts.2 parts.1)) (elifs g limit) := by
  induction limit with
  | zero => exact gives_reject
  | succ limit ih =>
    refine .after fun start => .after fun found => ?_
    split
    · refine .after fun test => (gives_suiteOf hg hsuite).bind fun body hbody => ih.bind fun parts hparts => ?_
      exact gives_pure fun stop => isTidy_block hbody isTidy_nil (hparts stop) isTidy_nil
    · exact (gives_suiteAfter hg hsuite "else").bind fun orelse horelse => gives_pure fun _ => horelse

theorem gives_ifBlock (start : Pos) : GivesBlock (ifBlock g start) := by
  refine .after fun test => (gives_suiteOf hg hsuite).bind fun body hbody => ?_
  refine (gives_elifs hg hsuite g.limit).bind fun parts hparts => .after fun stop => ?_
  exact gives_pure (isTidy_block hbody isTidy_nil (hparts stop) isTidy_nil)

theorem gives_loopBlock (start : Pos) (head : Head) : GivesBlock (loopBlock g start head) := by
  refine (gives_suiteOf hg hsuite).bind fun body hbody => ?_
  refine (gives_suiteAfter hg hsuite "else").bind fun orelse horelse => ?_
  exact .after fun stop => gives_pure (isTidy_block hbody isTidy_nil horelse isTidy_nil)

theorem gives_plainBlock (start : Pos) (head : Head) : GivesBlock (plainBlock g start head) :=
  (gives_suiteOf hg hsuite).bind fun _ hbody => .after fun _ =>
    gives_pure (isTidy_block hbody isTidy_nil isTidy_nil isTidy_nil)

theorem gives_whileBlock (start : Pos) : GivesBlock (whileBlock g start) :=
  .after fun _ => gives_loopBlock hg hsuite start _

theorem gives_forBlock (start : Pos) (isAsync : Bool) : GivesBlock (forBlock g start isAsync) :=
  .after fun _ => .after fun _ => .after fun _ => gives_loopBlock hg hsuite start _

theorem gives_withBlock (start : Pos) (isAsync : Bool) : GivesBlock (withBlock g start isAsync) :=
  .after fun _ => gives_plainBlock hg hsuite start _

theorem gives_functionBlock (start : Pos) (isAsync : Bool) (decorators : List Expr) :
    GivesBlock (functionBlock g start isAsync decorators) :=
  .after fun _ => .after fun _ => .after fun _ => .after fun _ => .after fun _ => gives_plainBlock hg hsuite start _

theorem gives_classBlock (start : Pos) (decorators : List Expr) : GivesBlock (classBlock g start decorators) := by
  refine .after fun _ => .after fun isCalled => ?_
  split
  all_goals exact .after fun _ => gives_plainBlock hg hsuite start _

theorem gives_handler : GivesBlock (handler g) := by
  refine .after fun start => .after fun _ => .after fun isGroup => .after fun isBare => ?_
  split
  · exact gives_plainBlock hg hsuite start _
  · exact .after fun type => .after fun bound => gives_plainBlock hg hsuite start _

theorem gives_tryBlock (start : Pos) : GivesBlock (tryBlock g start) := by
  have hhandlers : Gives (fun ss => ∀ s ∈ ss, IsTidy [s]) (many (optional (atWord "except") (handler g)) g.limit) :=
    (gives_handler hg hsuite).optional.many g.limit
  refine (gives_suiteOf hg hsuite).bind fun body hbody => hhandlers.bind fun handlers hhandlers => ?_
  dsimp only
  -- a `try` that is refused gives nothing
  refine .ite (.absurd gives_reject) ?_
  have hend {orelse : List Stmt} (horelse : IsTidy orelse) : Gives (fun s => IsTidy [s]) (do
      let hasFinal ← atWord "finally"
      if handlers.isEmpty && !hasFinal then reject
      let final ← suiteAfter g "finally"
      return .block (.ofPos start (← lastEnd)) .try body handlers orelse final) := by
    refine .after fun hasFinal => .ite (.absurd gives_reject) ?_
    refine (gives_suiteAfter hg hsuite "finally").bind fun final hfinal => .after fun stop => ?_
    exact gives_pure (isTidy_block hbody (isTidy_iff_forall.2 hhandlers) horelse hfinal)
  split
  · exact (gives_pure isTidy_nil).bind fun orelse horelse => hend horelse
  · exact (gives_suiteAfter hg hsuite "else").bind fun orelse horelse => hend horelse

theorem gives_decorated : GivesBlock (decorated g) := by
  refine .after fun decorators => .after fun start => .after fun isClass => ?_
  split
  · exact gives_classBlock hg hsuite start decorators
  · exact .after fun isAsync => .after fun _ => gives_functionBlock hg hsuite start isAsync decorators

theorem gives_caseBlock : GivesBlock (caseBlock g) := by
  refine .after fun _ => .after fun start => .after fun pattern => .after fun guard => .after fun stop => ?_
  refine (gives_suiteOf hg hsuite).bind fun body hbody => ?_
  exact gives_pure (isTidy_block hbody isTidy_nil isTidy_nil isTidy_nil)

theorem gives_cases (limit : Nat) : Gives IsTidy (cases g limit) := by
  induction limit with
  | zero => exact gives_reject
  | succ limit ih =>
    refine (gives_caseBlock hg hsuite).bind fun first hfirst => .after fun t => ?_
    split
    · exact .after fun _ => gives_pure hfirst
    · exact ih.bind fun more hmore => gives_pure (hfirst.append hmore)

theorem gives_matchOrLine (start : Pos) : Gives IsTidy (matchOrLine g start) := by
  refine .after fun subject? => ?_
  split
  · refine .after fun _ => (gives_cases hg hsuite g.limit).bind fun body hbody => .after fun stop => ?_
    exact gives_pure (isTidy_block hbody isTidy_nil isTidy_nil isTidy_nil)
  · exact gives_simpleLine hg g.limit

theorem gives_statement : Gives IsTidy (statement g) := by
  have hone {r : Reader Stmt} (h : GivesBlock r) : Gives IsTidy (r >>= fun s => pure [s]) :=
    h.bind fun s hs => gives_pure hs
  refine .after fun start => .after fun t => ?_
  split
  · exact .after fun _ => hone (gives_ifBlock hg hsuite start)
  · exact .after fun _ => hone (gives_whileBlock hg hsuite start)
  · exact .after fun _ => hone (gives_forBlock hg hsuite start false)
  · exact .after fun _ => hone (gives_withBlock hg hsuite start false)
  · exact .after fun _ => hone (gives_tryBlock hg hsuite start)
  · exact .after fun _ => hone (gives_functionBlock hg hsuite start false [])
  · exact .after fun _ => hone (gives_classBlock hg hsuite start [])
  · exact hone (gives_decorated hg hsuite)
  -- behind `async` stands one of three words
  · refine .after fun _ => .after fun isDef => ?_
    split
    · exact hone (gives_functionBlock hg hsuite start true [])
    refine .after fun isFor => ?_
    split
    · exact hone (gives_forBlock hg hsuite start true)
    · exact .after fun _ => hone (gives_withBlock hg hsuite start true)
  · exact gives_matchOrLine hg hsuite start
  · exact gives_simpleLine hg g.limit

/-! ## The whole source -/

theorem gives_statements (limit : Nat) : Gives IsTidy (statements g limit) := by
  induction limit with
  | zero => exact gives_reject
  | succ limit ih =>
    refine .after fun t => ?_
    split
    · exact gives_pure isTidy_nil
    · exact gives_pure isTidy_nil
    · exact (gives_statement hg hsuite).bind fun first hfirst => ih.bind fun more hmore =>
        gives_pure (hfirst.append hmore)

theorem gives_suiteRule : Gives IsTidy (suiteRule g) := by
  refine (gives_statements hg hsuite g.limit).bind fun body hbody => .after fun t => ?_
  split
  · exact .after fun _ => gives_pure hbody
  · exact gives_unexpected

theorem gives_readTree : Gives IsTidy (readTree g) := by
  refine (gives_statements hg hsuite g.limit).bind fun body hbody => .after fun t => ?_
  split
  · exact gives_pure hbody
  · exact gives_unexpected

end

theorem gives_suite_levels (limit n : Nat) : Gives IsTidy (levels limit n).suite := by
  induction n with
  | zero => exact gives_reject
  | succ n ih => exact gives_suiteRule (gives_expression_levels limit n) ih

end Grammar

/-! ## Comments -/

namespace Comment

open Crosswalk.Tree

variable {rs : List Region} {c : Comment} {t : Tree}

theorem isTidy_addTo (h : t.IsTidy) : IsTidy (addTo rs c t) := by
  refine isTidy_iff_forall.2 fun s hs => ?_
  rcases mem_addTo hs with hs | ⟨c', rfl, -⟩
  · exact isTidy_iff_forall.1 h s hs
  · exact isTidy_singleton trivial isTidy_nil

theorem isTidy_addInsideAll (owner : Pos) (suite : Suite) (h : t.IsTidy) :
    IsTidy (addInsideAll rs owner suite c t) := by
  have hadd {t : Tree} (isHere : Bool) (h : t.IsTidy) : IsTidy (if isHere then addTo rs c t else t) := by
    split
    · exact isTidy_addTo h
    · exact h
  induction t using suites_induct with
  | nil => exact h
  | cons s rest hsuite hrest =>
    obtain ⟨hs, hin, hbehind⟩ := forall_mem_flattenAll_cons.1 h
    refine forall_mem_flattenAll_cons.2 ?_
    cases s with
    | comment c' => exact ⟨hs, hin, hrest hbehind⟩
    | simple span content => exact ⟨hs, hin, hrest hbehind⟩
    | block span head body handlers orelse final =>
      refine ⟨trivial, fun which => ?_, hrest hbehind⟩
      cases which with
      | body => exact hadd _ (hsuite .body (hin .body))
      | handlers => exact hadd _ (hsuite .handlers (hin .handlers))
      | orelse => exact hadd _ (hsuite .orelse (hin .orelse))
      | final => exact hadd _ (hsuite .final (hin .final))

theorem isTidy_add (h : t.IsTidy) : IsTidy (add rs t c) := by
  unfold add
  split
  · split
    · exact isTidy_addInsideAll _ _ h
    · exact isTidy_addTo h
  · exact isTidy_addTo h

theorem isTidy_foldl_add (cs : List Comment) (h : t.IsTidy) : IsTidy (cs.foldl (add rs) t) := by
  induction cs generalizing t with
  | nil => exact h
  | cons c cs ih => exact ih (isTidy_add h)

theorem isTidy_widenAll (h : t.IsTidy) : IsTidy (widenAll rs t) := by
  induction t using suites_induct with
  | nil => exact h
  | cons s rest hsuite hrest =>
    obtain ⟨hs, hin, hbehind⟩ := forall_mem_flattenAll_cons.1 h
    refine forall_mem_flattenAll_cons.2 ?_
    cases s with
    | comment c' => exact ⟨hs, hin, hrest hbehind⟩
    | simple span content => exact ⟨hs, hin, hrest hbehind⟩
    | block span head body handlers orelse final =>
      refine ⟨trivial, fun which => ?_, hrest hbehind⟩
      cases which with
      | body => exact hsuite .body (hin .body)
      | handlers => exact hsuite .handlers (hin .handlers)
      | orelse => exact hsuite .orelse (hin .orelse)
      | final => exact hsuite .final (hin .final)

/-- Comments do not change what stands as a statement of its own. -/
theorem isTidy_place {source : List Char} {cs : List Comment} {t' : Tree} (h : place source cs t = some t')
    (ht : t.IsTidy) : t'.IsTidy := by
  unfold place at h
  split at h
  · cases h
    exact ht
  · obtain ⟨rs, -, rfl⟩ := Option.map_eq_some_iff.1 h
    exact isTidy_widenAll (isTidy_foldl_add cs ht)

end Comment

namespace Tree

variable {t : Tree}

theorem isTidy_parse {source : List Char} (h : parse source = .ok t) : t.IsTidy := by
  obtain ⟨c, hreads⟩ := exists_reads_of_parse h
  exact Grammar.gives_readTree (Grammar.gives_expression_levels _ _) (Grammar.gives_suite_levels _ _)
    _ t c (Token.arePlain_scan source) hreads

/-- All statements of a tree that is read are tidy. -/
theorem isTidy_read {code : String} (h : read code = .ok t) : t.IsTidy := by
  obtain ⟨-, bare, cs, hparse, -, hplace⟩ := read_eq_ok_iff.1 h
  exact Comment.isTidy_place hplace (isTidy_parse hparse)

end Tree

end Crosswalk

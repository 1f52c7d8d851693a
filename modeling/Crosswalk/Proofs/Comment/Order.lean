import Crosswalk.Comment.Place
import Crosswalk.Proofs.Except
import Crosswalk.Proofs.Tree.Order

/-!
# Comments and the order of statements

To place a comment sorts a suite by last lines, which are those of the blocks stretched over the lines around them.
The statements of the suite keep their order if these lines rise from one to the next, `Comment.Steady`. Then the
declarations of a tree are the same with its comments in place, `Comment.declarations_place`.
-/

namespace Crosswalk

@[simp] theorem Stmt.isComment_comment (c : Comment) : (Stmt.comment c).isComment = true := rfl

@[simp] theorem Stmt.isComment_simple (span : Span) (content : Simple) :
    (Stmt.simple span content).isComment = false := rfl

@[simp] theorem Stmt.isComment_block (span : Span) (head : Head) (body handlers orelse final : List Stmt) :
    (Stmt.block span head body handlers orelse final).isComment = false := rfl

/-! ## Trees without their comments -/

mutual

/-- A statement without the comments in it. -/
def Stmt.uncommented : Stmt → Stmt
  | .block span head body handlers orelse final =>
    .block span head (uncommentedAll body) (uncommentedAll handlers) (uncommentedAll orelse)
      (uncommentedAll final)
  | s => s

/-- Some statements without the comments among and in them. -/
def uncommentedAll : List Stmt → List Stmt
  | [] => []
  | s :: rest => if s.isComment then uncommentedAll rest else s.uncommented :: uncommentedAll rest

end

theorem uncommentedAll_eq (ss : List Stmt) :
    uncommentedAll ss = (ss.filter fun s => !s.isComment).map Stmt.uncommented := by
  induction ss with
  | nil => rfl
  | cons s rest ih =>
    rw [uncommentedAll, List.filter_cons, ih]
    cases s.isComment <;> simp

@[simp] theorem Stmt.span_uncommented (s : Stmt) : s.uncommented.span = s.span := by
  cases s <;> rfl

@[simp] theorem Stmt.suite_uncommented (which : Suite) (s : Stmt) :
    s.uncommented.suite which = uncommentedAll (s.suite which) := by
  cases s with
  | block => cases which <;> rfl
  | comment => simp [Stmt.uncommented, uncommentedAll]
  | simple => simp [Stmt.uncommented, uncommentedAll]

/-- Comments are no declarations. -/
theorem Tree.declarations_uncommentedAll (name : String) (t : Tree) :
    Tree.declarations name (uncommentedAll t) = t.declarations name := by
  induction t using suites_induct with
  | nil => rfl
  | cons s rest hsuite hrest =>
    rw [uncommentedAll, declarations_cons, ← hrest]
    cases s with
    | comment c => simp [Stmt.isDeclaration, Suite.all, Tree.declarations, flattenAll]
    | simple span content =>
      rw [if_neg (by simp), declarations_cons]
      simp [Stmt.uncommented]
    | block span head body handlers orelse final =>
      rw [if_neg (by simp), declarations_cons]
      simp only [Stmt.suite_uncommented, hsuite]
      rfl

/-- Nothing is to be left out of a tree without comments. -/
theorem Tree.IsBare.uncommentedAll_eq_self {t : Tree} (h : t.IsBare) : uncommentedAll t = t := by
  induction t using suites_induct with
  | nil => rfl
  | cons s rest hsuite hrest =>
    obtain ⟨hs, hin, hbehind⟩ := forall_mem_flattenAll_cons.1 h
    rw [uncommentedAll, hs, if_neg Bool.false_ne_true, hrest hbehind]
    cases s with
    | comment c => rfl
    | simple span content => rfl
    | block span head body handlers orelse final =>
      rw [Stmt.uncommented]
      congr 2
      · exact hsuite .body (hin .body)
      · exact hsuite .handlers (hin .handlers)
      · exact hsuite .orelse (hin .orelse)
      · exact hsuite .final (hin .final)

namespace Comment

variable {rs : List Region} {c : Comment} {s : Stmt} {ss rest : List Stmt} {n : Nat}

/-! ## Last lines -/

theorem foldl_max_le_iff {α : Type} {f : α → Nat} {xs : List α} {n m : Nat} :
    xs.foldl (fun n x => max n (f x)) n ≤ m ↔ n ≤ m ∧ ∀ x ∈ xs, f x ≤ m := by
  induction xs generalizing n with
  | nil => simp
  | cons x xs ih =>
    rw [List.foldl_cons, ih, List.forall_mem_cons, Nat.max_le, and_assoc]

/-- The last line that the region of the statement at a place reaches. -/
def reach (rs : List Region) (p : Pos) : Nat :=
  (rs.filter fun r => r.owner = some p).foldl (fun n r => max n r.high) 0

theorem high_le_reach {r : Region} {p : Pos} (h : r ∈ rs) (hp : r.owner = some p) : r.high ≤ reach rs p :=
  (foldl_max_le_iff.1 (Nat.le_refl (reach rs p))).2 r (List.mem_filter.2 ⟨h, by simpa using hp⟩)

/-- No comment of a suite ends behind the line given. -/
def EndBy (n : Nat) (ss : List Stmt) : Prop := ∀ c, Stmt.comment c ∈ ss → c.span.endLine ≤ n

/-- The comments in the bodies of a tree are within reach of the blocks. -/
def InReach (rs : List Region) (t : Tree) : Prop :=
  ∀ s ∈ flattenAll t, EndBy (reach rs s.span.start) (s.suite .body)

theorem finalEnd_uncommented (rs : List Region) (s : Stmt) : finalEnd rs s.uncommented = finalEnd rs s := by
  cases s <;> rfl

theorem finalEnd_mem_uncommentedAll {n : Nat} (ss : List Stmt) :
    (∀ s ∈ uncommentedAll ss, finalEnd rs s ≤ n) ↔ ∀ s ∈ ss, s.isComment = false → finalEnd rs s ≤ n := by
  simp only [uncommentedAll_eq, List.forall_mem_map, List.mem_filter, finalEnd_uncommented, Bool.not_eq_true',
    and_imp]

/-- Comments do not take a last line back. -/
theorem lastLine_uncommented_le (rs : List Region) (s : Stmt) : lastLine rs s.uncommented ≤ lastLine rs s := by
  cases s with
  | comment c => exact Nat.le_refl _
  | simple span content => exact Nat.le_refl _
  | block span head body handlers orelse final =>
    cases head with
    | case pattern guard =>
      obtain ⟨hspan, hbody⟩ := foldl_max_le_iff.1
        (Nat.le_refl (lastLine rs (.block span (.case pattern guard) body handlers orelse final)))
      exact foldl_max_le_iff.2 ⟨hspan, (finalEnd_mem_uncommentedAll body).2 fun s hs _ => hbody s hs⟩
    | _ => exact Nat.le_refl _

/-- Comments add to a last line, which is that of a case, only as far as they go themselves. -/
theorem lastLine_le (h : EndBy n (s.suite .body)) : lastLine rs s ≤ max (lastLine rs s.uncommented) n := by
  cases s with
  | comment c => exact Nat.le_max_left _ _
  | simple span content => exact Nat.le_max_left _ _
  | block span head body handlers orelse final =>
    cases head with
    | case pattern guard =>
      obtain ⟨hspan, hbody⟩ := foldl_max_le_iff.1 (Nat.le_refl
        (lastLine rs (Stmt.block span (.case pattern guard) body handlers orelse final).uncommented))
      refine foldl_max_le_iff.2 ⟨Nat.le_trans hspan (Nat.le_max_left _ _), fun s hs => ?_⟩
      cases s with
      | comment c => exact Nat.le_trans (h c hs) (Nat.le_max_right _ _)
      | simple | block =>
        have hs' := (finalEnd_mem_uncommentedAll body).1 hbody _ hs rfl
        exact Nat.le_trans hs' (Nat.le_max_left _ _)
    | _ => exact Nat.le_max_left _ _

/-! ## A comment in a suite -/

/-- The order in which a suite stands once it holds a comment. -/
def endsBy (rs : List Region) (a b : Stmt) : Bool :=
  lastLine rs a < lastLine rs b || (lastLine rs a = lastLine rs b && (!a.isComment || b.isComment))

theorem endsBy_iff {a b : Stmt} : endsBy rs a b = true ↔
    lastLine rs a < lastLine rs b ∨
      lastLine rs a = lastLine rs b ∧ (a.isComment = true → b.isComment = true) := by
  unfold endsBy
  cases a.isComment <;> cases b.isComment <;> simp

theorem endsBy_trans (a b c : Stmt) (hab : endsBy rs a b = true) (hbc : endsBy rs b c = true) :
    endsBy rs a c = true := by
  rw [endsBy_iff] at *
  rcases hab with hab | ⟨hab, hab'⟩ <;> rcases hbc with hbc | ⟨hbc, hbc'⟩
  · exact .inl (Nat.lt_trans hab hbc)
  · exact .inl (hbc ▸ hab)
  · exact .inl (hab ▸ hbc)
  · exact .inr ⟨hab.trans hbc, hbc' ∘ hab'⟩

theorem endsBy_total (a b : Stmt) : (endsBy rs a b || endsBy rs b a) = true := by
  rw [Bool.or_eq_true, endsBy_iff, endsBy_iff]
  rcases Nat.lt_trichotomy (lastLine rs a) (lastLine rs b) with h | h | h
  · exact .inl (.inl h)
  · cases hb : b.isComment with
    | true => exact .inl (.inr ⟨h, fun _ => rfl⟩)
    | false => exact .inr (.inr ⟨h.symm, fun hb' => absurd hb' Bool.false_ne_true⟩)
  · exact .inr (.inl h)

theorem addTo_eq (rs : List Region) (c : Comment) (ss : List Stmt) :
    addTo rs c ss = separate false ((ss ++ [Stmt.comment c]).mergeSort (endsBy rs)) := rfl

theorem mem_separate {isBehind : Bool} (h : s ∈ separate isBehind ss) :
    s ∈ ss ∨ ∃ c c', Stmt.comment c ∈ ss ∧ s = .comment c' ∧ c'.span = c.span := by
  induction ss generalizing isBehind with
  | nil => exact .inl h
  | cons s' rest ih =>
    cases s' with
    | comment c =>
      rcases List.mem_cons.1 h with rfl | h
      · exact .inr ⟨c, _, List.mem_cons_self, rfl, by split <;> rfl⟩
      · rcases ih h with hs | ⟨c', c'', hc', hs⟩
        · exact .inl (List.mem_cons_of_mem _ hs)
        · exact .inr ⟨c', c'', List.mem_cons_of_mem _ hc', hs⟩
    | simple | block =>
      rcases List.mem_cons.1 h with rfl | h
      · exact .inl List.mem_cons_self
      · rcases ih h with hs | ⟨c', c'', hc', hs⟩
        · exact .inl (List.mem_cons_of_mem _ hs)
        · exact .inr ⟨c', c'', List.mem_cons_of_mem _ hc', hs⟩

theorem filter_separate (isBehind : Bool) (ss : List Stmt) :
    (separate isBehind ss).filter (fun s => !s.isComment) = ss.filter fun s => !s.isComment := by
  induction ss generalizing isBehind with
  | nil => rfl
  | cons s rest ih =>
    cases s with
    | comment c => simp [separate, ih]
    | simple span content => simp [separate, ih]
    | block => simp [separate, ih]

theorem mem_addTo (h : s ∈ addTo rs c ss) :
    s ∈ ss ∨ ∃ c', s = .comment c' ∧ (c'.span = c.span ∨ ∃ c'', Stmt.comment c'' ∈ ss ∧ c'.span = c''.span) := by
  have hmem (s : Stmt) : s ∈ (ss ++ [Stmt.comment c]).mergeSort (endsBy rs) ↔ s ∈ ss ∨ s = .comment c := by
    rw [(List.mergeSort_perm _ _).mem_iff, List.mem_append, List.mem_singleton]
  rw [addTo_eq] at h
  rcases mem_separate h with hs | ⟨c', c'', hc', rfl, hspan⟩
  · rcases (hmem s).1 hs with hs | rfl
    · exact .inl hs
    · exact .inr ⟨c, rfl, .inl rfl⟩
  · rcases (hmem _).1 hc' with hc' | hc'
    · exact .inr ⟨c'', rfl, .inr ⟨c', hc', hspan⟩⟩
    · cases hc'
      exact .inr ⟨c'', rfl, .inl hspan⟩

theorem endBy_addTo (h : EndBy n ss) (hc : c.span.endLine ≤ n) : EndBy n (addTo rs c ss) := by
  intro c' hc'
  rcases mem_addTo hc' with hc' | ⟨c'', heq, hspan | ⟨c₀, hc₀, hspan⟩⟩
  · exact h c' hc'
  · cases heq
    exact hspan ▸ hc
  · cases heq
    exact hspan ▸ h c₀ hc₀

theorem inReach_addTo (h : InReach rs ss) : InReach rs (addTo rs c ss) := by
  intro s hs
  rw [flattenAll_eq_flatMap, List.mem_flatMap] at hs
  obtain ⟨s', hs', hs⟩ := hs
  rcases mem_addTo hs' with hs' | ⟨c', rfl, -⟩
  · refine h s ?_
    rw [flattenAll_eq_flatMap]
    exact List.mem_flatMap.2 ⟨s', hs', hs⟩
  · obtain rfl := List.mem_singleton.1 hs
    simp [EndBy]

/-- The last lines rise from one statement to the next, whatever is placed in the reach of the first. -/
def Rises (rs : List Region) (ss : List Stmt) : Prop :=
  ss.Pairwise fun a b => max (lastLine rs a) (reach rs a.span.start) ≤ lastLine rs b

instance (rs : List Region) (ss : List Stmt) : Decidable (Rises rs ss) :=
  inferInstanceAs (Decidable (ss.Pairwise _))

/-- A suite whose last lines rise keeps its statements in order. -/
theorem uncommentedAll_addTo (h : Rises rs (uncommentedAll ss)) (hreach : InReach rs ss) :
    uncommentedAll (addTo rs c ss) = uncommentedAll ss := by
  let others (ss : List Stmt) : List Stmt := ss.filter fun s => !s.isComment
  have hsorted : (others ss).Pairwise fun a b => endsBy rs a b = true := by
    rw [uncommentedAll_eq, Rises, List.pairwise_map] at h
    refine h.imp_of_mem fun {a b} ha hb hab => ?_
    have ha' := List.mem_filter.1 ha
    have hle : lastLine rs a ≤ _ := lastLine_le (hreach a (mem_flattenAll_of_mem ha'.1))
    have := lastLine_uncommented_le rs b
    rw [Stmt.span_uncommented] at hab
    rw [endsBy_iff]
    rcases Nat.lt_or_ge (lastLine rs a) (lastLine rs b) with hlt | hge
    · exact .inl hlt
    · refine .inr ⟨by omega, fun hcomment => ?_⟩
      rw [hcomment] at ha'
      cases ha'.2
  have hsublist : (others ss).Sublist ((ss ++ [Stmt.comment c]).mergeSort (endsBy rs)) := by
    exact List.sublist_mergeSort endsBy_trans endsBy_total hsorted
      (List.filter_sublist.trans (List.sublist_append_left _ _))
  have hothers : others (addTo rs c ss) = others ss := by
    rw [addTo_eq]
    refine (filter_separate false _).trans ?_
    have hperm : (others ((ss ++ [Stmt.comment c]).mergeSort (endsBy rs))).Perm (others ss) := by
      refine ((List.mergeSort_perm _ _).filter _).trans ?_
      simp [others]
    refine (List.Sublist.eq_of_length ?_ hperm.length_eq.symm).symm
    simpa [others] using hsublist.filter fun s => !s.isComment
  rw [uncommentedAll_eq, uncommentedAll_eq]
  exact congrArg (List.map Stmt.uncommented) hothers

/-! ## A comment in a tree -/

/-- In all suites the last lines rise from one statement to the next. -/
def Steady (rs : List Region) (t : Tree) : Prop :=
  Rises rs t ∧ ∀ s ∈ flattenAll t, ∀ which, Rises rs (s.suite which)

instance (rs : List Region) (t : Tree) : Decidable (Steady rs t) :=
  decidable_of_iff (Rises rs t ∧ ∀ s ∈ flattenAll t, ∀ which ∈ Suite.all, Rises rs (s.suite which)) <|
    and_congr_right fun _ => forall₂_congr fun _ _ =>
      ⟨fun h which => h which which.mem_all, fun h which _ => h which⟩

theorem Steady.of_cons (h : Steady rs (s :: rest)) : (∀ which, Steady rs (s.suite which)) ∧ Steady rs rest := by
  obtain ⟨hs, hin, hrest⟩ := forall_mem_flattenAll_cons.1 h.2
  exact ⟨fun which => ⟨hs which, hin which⟩, (List.pairwise_cons.1 h.1).2, hrest⟩

variable {owner : Pos} {name : Suite}

theorem endBy_addInsideAll (h : EndBy n ss) : EndBy n (addInsideAll rs owner name c ss) := by
  induction ss with
  | nil => exact h
  | cons s rest ih =>
    intro c' hc'
    rcases List.mem_cons.1 hc' with heq | hc'
    · cases s with
      | comment => exact h c' (heq ▸ List.mem_cons_self)
      | simple => cases heq
      | block => cases heq
    · exact ih (fun c hc => h c (List.mem_cons_of_mem _ hc)) c' hc'

theorem inReach_addInsideAll (hc : c.span.endLine ≤ reach rs owner) (h : InReach rs ss) :
    InReach rs (addInsideAll rs owner name c ss) := by
  have hadd {ss : List Stmt} (isHere : Bool) (h : InReach rs ss) :
      InReach rs (if isHere then addTo rs c ss else ss) := by
    cases isHere with
    | true => exact inReach_addTo h
    | false => exact h
  induction ss using suites_induct with
  | nil => exact h
  | cons s rest hsuite hrest =>
    obtain ⟨hs, hin, hbehind⟩ := forall_mem_flattenAll_cons.1 h
    refine forall_mem_flattenAll_cons.2 ?_
    cases s with
    | comment c' => exact ⟨hs, hin, hrest hbehind⟩
    | simple span content => exact ⟨hs, hin, hrest hbehind⟩
    | block span head body handlers orelse final =>
      refine ⟨?_, fun which => ?_, hrest hbehind⟩
      · have hbody : EndBy (reach rs span.start) (addInsideAll rs owner name c body) := endBy_addInsideAll hs
        have hadd (isHere : Bool) (hstart : isHere = true → span.start = owner) :
            EndBy (reach rs span.start) (if isHere then addTo rs c (addInsideAll rs owner name c body)
              else addInsideAll rs owner name c body) := by
          cases isHere with
          | true => exact endBy_addTo hbody (hstart rfl ▸ hc)
          | false => exact hbody
        exact hadd (decide (span.start = owner) && decide (name = .body)) fun h =>
          of_decide_eq_true (Bool.and_eq_true_iff.1 h).1
      · cases which with
        | body => exact hadd _ (hsuite .body (hin .body))
        | handlers => exact hadd _ (hsuite .handlers (hin .handlers))
        | orelse => exact hadd _ (hsuite .orelse (hin .orelse))
        | final => exact hadd _ (hsuite .final (hin .final))

/-- A tree whose last lines rise keeps its statements in order. -/
theorem uncommentedAll_addInsideAll (hc : c.span.endLine ≤ reach rs owner) (hreach : InReach rs ss)
    (h : Steady rs (uncommentedAll ss)) :
    uncommentedAll (addInsideAll rs owner name c ss) = uncommentedAll ss := by
  have hadd {ss : List Stmt} (isHere : Bool) (hreach : InReach rs ss) (h : Steady rs (uncommentedAll ss))
      (heq : uncommentedAll (addInsideAll rs owner name c ss) = uncommentedAll ss) :
      uncommentedAll (if isHere then addTo rs c (addInsideAll rs owner name c ss)
        else addInsideAll rs owner name c ss) = uncommentedAll ss := by
    cases isHere with
    | true => exact (uncommentedAll_addTo (heq ▸ h.1) (inReach_addInsideAll hc hreach)).trans heq
    | false => exact heq
  induction ss using suites_induct with
  | nil => rfl
  | cons s rest hsuite hrest =>
    obtain ⟨-, hin, hbehind⟩ := forall_mem_flattenAll_cons.1 hreach
    cases s with
    | comment c' => exact hrest hbehind h
    | simple span content => exact congrArg (_ :: ·) (hrest hbehind h.of_cons.2)
    | block span head body handlers orelse final =>
      obtain ⟨hsteady, hsteady'⟩ := h.of_cons
      refine congrArg₂ List.cons ?_ (hrest hbehind hsteady')
      rw [addInside, Stmt.uncommented, Stmt.uncommented]
      congr 1
      · exact hadd _ (hin .body) (hsteady .body) (hsuite .body (hin .body) (hsteady .body))
      · exact hadd _ (hin .handlers) (hsteady .handlers) (hsuite .handlers (hin .handlers) (hsteady .handlers))
      · exact hadd _ (hin .orelse) (hsteady .orelse) (hsuite .orelse (hin .orelse) (hsteady .orelse))
      · exact hadd _ (hin .final) (hsteady .final) (hsuite .final (hin .final) (hsteady .final))

/-- A choice between what was best so far and the next one ends with one of the list. -/
theorem foldl_eq_some {α : Type} {f : Option α → α → Option α} (hf : ∀ best x, f best x = best ∨ f best x = some x)
    {xs : List α} {best : Option α} {x : α} (h : xs.foldl f best = some x) : best = some x ∨ x ∈ xs := by
  induction xs generalizing best with
  | nil => exact .inl h
  | cons y ys ih =>
    rcases ih h with hbest | hmem
    · rcases hf best y with heq | heq
      · exact .inl (heq ▸ hbest)
      · rw [heq] at hbest
        exact .inr (Option.some.inj hbest ▸ List.mem_cons_self)
    · exact .inr (List.mem_cons_of_mem _ hmem)

/-- A line belongs to a region only if the region reaches it. -/
theorem regionAt_eq_some {line : Nat} {r : Region} (h : regionAt rs line = some r) : r ∈ rs ∧ line ≤ r.high := by
  unfold regionAt at h
  have hmem := (foldl_eq_some (fun best r => ?_) h).resolve_left nofun
  · obtain ⟨hr, hline⟩ := List.mem_filter.1 hmem
    exact ⟨hr, of_decide_eq_true (Bool.and_eq_true_iff.1 hline).2⟩
  · cases best with
    | none => exact .inr rfl
    | some b =>
      dsimp only
      split
      · exact .inr rfl
      · exact .inl rfl

variable {t : Tree} {cs : List Comment}

theorem inReach_add (hc : c.span.endLine = c.span.line) (h : InReach rs t) : InReach rs (add rs t c) := by
  unfold add
  split
  · rename_i r hr
    split
    · rename_i owner howner
      obtain ⟨hmem, hline⟩ := regionAt_eq_some hr
      have hreach := high_le_reach hmem howner
      exact inReach_addInsideAll (by omega) h
    · exact inReach_addTo h
  · exact inReach_addTo h

theorem uncommentedAll_add (hc : c.span.endLine = c.span.line) (hreach : InReach rs t)
    (h : Steady rs (uncommentedAll t)) : uncommentedAll (add rs t c) = uncommentedAll t := by
  unfold add
  split
  · rename_i r hr
    split
    · rename_i owner howner
      obtain ⟨hmem, hline⟩ := regionAt_eq_some hr
      have hhigh := high_le_reach hmem howner
      exact uncommentedAll_addInsideAll (by omega) hreach h
    · exact uncommentedAll_addTo h.1 hreach
  · exact uncommentedAll_addTo h.1 hreach

theorem uncommentedAll_foldl_add (hcs : ∀ c ∈ cs, c.span.endLine = c.span.line) (hreach : InReach rs t)
    (h : Steady rs (uncommentedAll t)) : uncommentedAll (cs.foldl (add rs) t) = uncommentedAll t := by
  induction cs generalizing t with
  | nil => rfl
  | cons c cs ih =>
    obtain ⟨hc, hcs⟩ := List.forall_mem_cons.1 hcs
    have hadd := uncommentedAll_add hc hreach h
    exact (ih hcs (inReach_add hc hreach) (hadd ▸ h)).trans hadd

/-! ## All comments of a source -/

/-- Only blocks get other extents. -/
theorem declarations_widenAll (name : String) (rs : List Region) (t : Tree) :
    Tree.declarations name (widenAll rs t) = t.declarations name := by
  induction t using suites_induct with
  | nil => rfl
  | cons s rest hsuite hrest =>
    have hwiden (which : Suite) : (widen rs s).suite which = widenAll rs (s.suite which) := by
      cases s with
      | block => cases which <;> rfl
      | comment => simp [widen, widenAll]
      | simple => simp [widen, widenAll]
    rw [widenAll, Tree.declarations_cons, Tree.declarations_cons, hrest]
    simp only [hwiden, hsuite]
    cases s <;> rfl

theorem inReach_of_isBare (rs : List Region) (h : t.IsBare) : InReach rs t := by
  induction t using suites_induct with
  | nil => exact fun s hs => by simp [flattenAll] at hs
  | cons s rest hsuite hrest =>
    obtain ⟨-, hin, hbehind⟩ := forall_mem_flattenAll_cons.1 h
    refine forall_mem_flattenAll_cons.2 ⟨fun c hc => ?_, fun which => hsuite which (hin which), hrest hbehind⟩
    cases hin .body _ (mem_flattenAll_of_mem hc)

/-- A comment is on one line. -/
theorem endLine_of_scanLines {s : Scan} {lineNumber : Nat} {lines : List (List Char)}
    (h : scanLines s lineNumber lines = .ok cs) : ∀ c ∈ cs, c.span.endLine = c.span.line := by
  induction lines generalizing s lineNumber cs with
  | nil =>
    unfold scanLines at h
    split at h
    · cases h
    · split at h <;> cases h
      simp
  | cons line lines ih =>
    rw [scanLines, bind_eq_ok] at h
    obtain ⟨⟨found, next⟩, -, h⟩ := h
    have hmake : ∀ c ∈ found.map (make lineNumber line), c.span.endLine = c.span.line :=
      List.forall_mem_map.2 fun _ _ => rfl
    cases next with
    | none =>
      cases h
      exact hmake
    | some s =>
      obtain ⟨more, hmore, hcs⟩ := bind_eq_ok.1 h
      cases hcs
      exact List.forall_mem_append.2 ⟨hmake, ih hmore⟩

theorem place_nil (source : List Char) (t : Tree) : place source [] t = some t := rfl

/-- If the last lines rise, placing comments leaves the declarations of a tree as they are. -/
theorem declarations_place {source : List Char} {t' : Tree} (name : String) (h : place source cs t = some t')
    (ht : t.IsBare) (hcs : ∀ c ∈ cs, c.span.endLine = c.span.line)
    (hsteady : cs ≠ [] → ∀ rs, regions (.ofSource source) t = some rs → Steady rs t) :
    t'.declarations name = t.declarations name := by
  unfold place at h
  split at h
  · cases h
    rfl
  · rename_i hne
    obtain ⟨rs, hrs, rfl⟩ := Option.map_eq_some_iff.1 h
    have hsteady := hsteady (fun hnil => hne (hnil ▸ rfl)) rs hrs
    have hkept := uncommentedAll_foldl_add hcs (inReach_of_isBare rs ht)
      (ht.uncommentedAll_eq_self.symm ▸ hsteady)
    rw [declarations_widenAll, ← Tree.declarations_uncommentedAll, hkept, Tree.declarations_uncommentedAll]

end Comment

end Crosswalk

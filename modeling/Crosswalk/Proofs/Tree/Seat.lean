import Crosswalk.SeedTable
import Crosswalk.Proofs.Tree.Order

/-!
# The seat of the seed table

The seat of a name is the place of the outermost statement that assigns a dict display to it, and of the
first of those. `seat?_eq_some_iff` says that the search finds the seat and the dict display there. The seat stays
where it is when the dict display grows, `IsSeat.modify_grow`, and is then found with the entries at its end.
-/

namespace Crosswalk

theorem Simple.seed?_extend (name : String) (more : List Entry) (content : Simple) :
    (content.extend more).seed? name =
      (content.seed? name).map fun table => ⟨table.entries ++ more, table.pos⟩ := by
  fun_cases Simple.extend more content with
  | case1 targets entries pos =>
    simp only [Simple.seed?]
    by_cases h : targets.any (·.isName name) = true
    · rw [if_pos h, if_pos h, Option.map_some]
    · rw [if_neg h, if_neg h, Option.map_none]
  | case2 target isBare note entries pos =>
    simp only [Simple.seed?]
    by_cases h : target.isName name = true
    · rw [if_pos h, if_pos h, Option.map_some]
    · rw [if_neg h, if_neg h, Option.map_none]
  | case3 content hassign hannotated =>
    have hnone : content.seed? name = none := by
      unfold Simple.seed?
      split
      · exact absurd rfl (hassign _ _ _)
      · exact absurd rfl (hannotated _ _ _ _ _)
      · rfl
    rw [hnone, Option.map_none]

namespace Stmt

@[simp] theorem suite_grow (more : List Entry) (s : Stmt) (which : Suite) :
    (s.grow more).suite which = s.suite which := by
  cases s <;> simp [grow]

@[simp] theorem seed?_shell (name : String) (s : Stmt) : s.shell.seed? name = s.seed? name := by
  cases s <;> rfl

/-- A dict display grows by the entries that are added, and stays where it is. -/
theorem seed?_grow (name : String) (more : List Entry) (s : Stmt) :
    (s.grow more).seed? name =
      (s.seed? name).map fun table => ⟨table.entries ++ more, table.pos⟩ := by
  cases s with
  | comment => rfl
  | block => rfl
  | simple span content => exact content.seed?_extend name more

/-- The suites of a statement span fewer levels than the statement. -/
theorem heightOf_suite_lt (s : Stmt) (which : Suite) : heightOf (s.suite which) < s.height := by
  cases s with
  | block =>
    rw [height]
    cases which <;> simp only [suite] <;> omega
  | comment => simp [heightOf, height]
  | simple => simp [heightOf, height]

end Stmt

theorem height_le_heightOf {s : Stmt} {ss : List Stmt} (h : s ∈ ss) : s.height ≤ heightOf ss := by
  induction ss with
  | nil => exact absurd h List.not_mem_nil
  | cons a rest ih =>
    rw [heightOf]
    rcases List.mem_cons.1 h with rfl | h
    · exact Nat.le_max_left _ _
    · exact Nat.le_trans (ih h) (Nat.le_max_right _ _)

namespace Place

/-- The dict display that the statement at a place assigns to the name. -/
def seed? (name : String) (ss : List Stmt) (p : Place) : Option SeedTable :=
  (p.stmt? ss).bind (Stmt.seed? name)

@[simp] theorem seed?_next (name : String) (s : Stmt) (rest : List Stmt) (p : Place) :
    p.next.seed? name (s :: rest) = p.seed? name rest := by
  rw [seed?, seed?, stmt?_next]

@[simp] theorem seed?_here_zero (name : String) (s : Stmt) (rest : List Stmt) :
    (here 0).seed? name (s :: rest) = s.seed? name := rfl

@[simp] theorem seed?_inside_zero (name : String) (which : Suite) (p : Place) (s : Stmt)
    (rest : List Stmt) : (inside 0 which p).seed? name (s :: rest) = p.seed? name (s.suite which) := rfl

theorem isSome_stmt?_of_seed? {name : String} {ss : List Stmt} {p : Place}
    (h : (p.seed? name ss).isSome) : (p.stmt? ss).isSome := by
  rw [seed?] at h
  exact Option.isSome_of_isSome_bind h

/-- A place with a statement is within the levels of the tree. -/
theorem depth_lt_heightOf {p : Place} {ss : List Stmt} (h : (p.stmt? ss).isSome) :
    p.depth < heightOf ss := by
  induction p generalizing ss with
  | here i =>
    obtain ⟨s, hs⟩ := Option.isSome_iff_exists.1 h
    have hle := height_le_heightOf (List.mem_of_getElem? hs)
    have hlt := s.heightOf_suite_lt .body
    rw [depth_here]
    omega
  | inside i which p ih =>
    rw [stmt?] at h
    obtain ⟨s, hs⟩ := Option.isSome_iff_exists.1 (Option.isSome_of_isSome_bind h)
    rw [hs, Option.bind_some] at h
    have hp := ih h
    have hle := height_le_heightOf (List.mem_of_getElem? hs)
    have hlt := s.heightOf_suite_lt which
    rw [depth_inside]
    omega

/-- The order of the search: by level, and in the order of the source within a level. -/
def Before (p q : Place) : Prop := p.depth < q.depth ∨ p.depth = q.depth ∧ p.Precedes q

theorem Before.asymm {p q : Place} (h : p.Before q) : ¬ q.Before p := by
  rcases h with h | ⟨h, hpq⟩
  · rintro (h' | ⟨h', -⟩) <;> omega
  · rintro (h' | ⟨-, hqp⟩)
    · omega
    · exact hpq.asymm hqp

end Place

/-! ## The seat -/

/-- The place assigns a dict display to the name, before all others that do. -/
structure IsSeat (name : String) (ss : List Stmt) (p : Place) : Prop where
  assigned : (p.seed? name ss).isSome
  first : ∀ q : Place, (q.seed? name ss).isSome → q ≠ p → p.Before q

theorem IsSeat.unique {name : String} {ss : List Stmt} {p q : Place} (hp : IsSeat name ss p)
    (hq : IsSeat name ss q) : p = q := by
  by_contra hne
  exact (hp.first q hq.assigned (Ne.symm hne)).asymm (hq.first p hp.assigned hne)

/-- A tree that assigns the name at the same places has the same seat. -/
theorem IsSeat.congr {name : String} {ss ss' : List Stmt} {p : Place} (hp : IsSeat name ss p)
    (h : ∀ q : Place, (q.seed? name ss').isSome = (q.seed? name ss).isSome) : IsSeat name ss' p :=
  ⟨(h p).trans hp.assigned, fun q hq => hp.first q ((h q).symm.trans hq)⟩

/-- At a place whose statement is given more entries, the dict display grows. -/
theorem Place.seed?_modify_self (name : String) (more : List Entry) (ss : List Stmt) (p : Place) :
    p.seed? name (p.modify (Stmt.grow more) ss) =
      (p.seed? name ss).map fun table => ⟨table.entries ++ more, table.pos⟩ := by
  rw [seed?, stmt?_modify_self, seed?]
  cases p.stmt? ss with
  | none => rfl
  | some s => exact s.seed?_grow name more

/-- What is assigned at a place does not depend on what stands in the suites there. -/
theorem Place.seed?_eq_bind_shell (name : String) (ss : List Stmt) (p : Place) :
    p.seed? name ss = ((p.stmt? ss).map Stmt.shell).bind (Stmt.seed? name) := by
  rw [seed?]
  cases p.stmt? ss with
  | none => rfl
  | some s => exact (s.seed?_shell name).symm

theorem Place.seed?_modify_of_ne {p q : Place} (hne : q ≠ p) (name : String) (more : List Entry)
    (ss : List Stmt) : q.seed? name (p.modify (Stmt.grow more) ss) = q.seed? name ss := by
  rw [seed?_eq_bind_shell, seed?_eq_bind_shell, shell_stmt?_modify (Stmt.suite_grow more) hne]

/-- The seat stays where it is when the dict display there grows. -/
theorem IsSeat.modify_grow {name : String} {ss : List Stmt} {p : Place} (hp : IsSeat name ss p)
    (more : List Entry) : IsSeat name (p.modify (Stmt.grow more) ss) p := by
  refine hp.congr fun q => ?_
  by_cases hne : q = p
  · rw [hne, Place.seed?_modify_self, Option.isSome_map]
  · rw [Place.seed?_modify_of_ne hne]

/-! ## The search of one level -/

/-- The first place of a level that assigns a dict display to the name. -/
def firstAt? (name : String) (depth : Nat) (ss : List Stmt) : Option Place :=
  (places ss).find? fun p => p.depth = depth ∧ (p.seed? name ss).isSome

@[simp] theorem firstAt?_nil (name : String) (depth : Nat) : firstAt? name depth [] = none := by
  simp [firstAt?, places]

private theorem find?_next (name : String) (depth : Nat) (s : Stmt) (rest : List Stmt) :
    ((places rest).map Place.next).find? (fun p => p.depth = depth ∧ (p.seed? name (s :: rest)).isSome) =
      (firstAt? name depth rest).map Place.next := by
  rw [List.find?_map, firstAt?]
  congr 2
  funext p
  simp only [Function.comp_apply, Place.depth_next, Place.seed?_next]

/-- On the outermost level the statement itself is looked at, and then the others. -/
theorem firstAt?_cons_zero (name : String) (s : Stmt) (rest : List Stmt) :
    firstAt? name 0 (s :: rest) =
      ((s.seed? name).map fun _ => Place.here 0).or ((firstAt? name 0 rest).map Place.next) := by
  rw [firstAt?, places, s.placesWithin_eq, List.find?_cons]
  have hwithin : (Suite.all.flatMap fun which => (places (s.suite which)).map (Place.inside 0 which)).find?
      (fun p => p.depth = 0 ∧ (p.seed? name (s :: rest)).isSome) = none := by
    simp
  cases h : s.seed? name with
  | none =>
    rw [List.find?_append, hwithin, find?_next]
    simp [h]
  | some table => simp [h]

/-- On the other levels the suites of a statement are looked at, and then the other statements. -/
theorem firstAt?_cons_succ (name : String) (depth : Nat) (s : Stmt) (rest : List Stmt) :
    firstAt? name (depth + 1) (s :: rest) =
      (Suite.all.findSome? fun which =>
        (firstAt? name depth (s.suite which)).map (Place.inside 0 which)).or
        ((firstAt? name (depth + 1) rest).map Place.next) := by
  rw [firstAt?, places, s.placesWithin_eq, List.find?_cons]
  simp [firstAt?, Function.comp_def]

theorem isSome_of_firstAt? {name : String} {depth : Nat} {ss : List Stmt} {p : Place}
    (h : firstAt? name depth ss = some p) : p.depth = depth ∧ (p.seed? name ss).isSome := by
  simpa using List.find?_some h

theorem firstAt?_eq_none {name : String} {depth : Nat} {ss : List Stmt} (h : firstAt? name depth ss = none)
    {q : Place} (hq : (q.seed? name ss).isSome) : q.depth ≠ depth := by
  intro hd
  have hnot := List.find?_eq_none.1 h q ((mem_places ss q).2 (Place.isSome_stmt?_of_seed? hq))
  exact hnot (by simp [hd, hq])

/-- The place that is found comes before all others of the level. -/
theorem precedes_of_firstAt? {name : String} {depth : Nat} {ss : List Stmt} {p q : Place}
    (h : firstAt? name depth ss = some p) (hq : (q.seed? name ss).isSome) (hd : q.depth = depth)
    (hne : q ≠ p) : p.Precedes q := by
  obtain ⟨-, before, after, hplaces, hbefore⟩ := List.find?_eq_some_iff_append.1 h
  have hmem := (mem_places ss q).2 (Place.isSome_stmt?_of_seed? hq)
  have horder := pairwise_places ss
  rw [hplaces] at hmem horder
  rcases List.mem_append.1 hmem with hmem | hmem
  -- a place before it would have been found itself
  · exact absurd (hbefore q hmem) (by simp [hd, hq])
  · have hafter : q ∈ after := (List.mem_cons.1 hmem).resolve_left hne
    exact List.rel_of_pairwise_cons (List.pairwise_append.1 horder).2.1 hafter

private theorem findSome?_suites {β : Type} (f : Suite → Option β) :
    Suite.all.findSome? f = (((f .body).or (f .handlers)).or (f .orelse)).or (f .final) := by
  simp only [Suite.all, List.findSome?_cons, List.findSome?_nil]
  cases f .body <;> cases f .handlers <;> cases f .orelse <;> cases f .final <;> rfl

theorem Stmt.seatAt?_zero (name : String) (s : Stmt) :
    s.seatAt? name 0 = (s.seed? name).map (Prod.mk (.here 0)) := by
  cases s <;> rfl

theorem Stmt.seatAt?_succ (name : String) (depth : Nat) (s : Stmt) :
    s.seatAt? name (depth + 1) = Suite.all.findSome? fun which =>
      (Crosswalk.seatAt? name depth (s.suite which)).map (Prod.map (.inside 0 which) id) := by
  rw [findSome?_suites]
  cases s with
  | block => rfl
  | comment => simp [Stmt.seatAt?, Crosswalk.seatAt?]
  | simple => simp [Stmt.seatAt?, Crosswalk.seatAt?]

/-- The search of one level finds the first place that assigns a dict display. -/
theorem map_fst_seatAt? (name : String) (ss : List Stmt) :
    ∀ depth, (seatAt? name depth ss).map (·.1) = firstAt? name depth ss := by
  induction ss using suites_induct with
  | nil => simp [seatAt?]
  | cons s rest hsuite hrest =>
    intro depth
    have hnext : ((seatAt? name depth rest).map (Prod.map Place.next id)).map (·.1) =
        (firstAt? name depth rest).map Place.next := by
      rw [← hrest, Option.map_map, Option.map_map]
      rfl
    rw [seatAt?, Option.map_or, hnext]
    -- the first statement is looked at on level zero, its suites on the levels below
    cases depth with
    | zero =>
      rw [s.seatAt?_zero, firstAt?_cons_zero, Option.map_map]
      rfl
    | succ depth =>
      rw [s.seatAt?_succ, firstAt?_cons_succ, List.map_findSome?]
      congr 2
      funext which
      rw [Function.comp_apply, ← hsuite, Option.map_map, Option.map_map]
      rfl

/-- What the search finds is the dict display at the place that it finds. -/
theorem seed?_of_seatAt? {name : String} {ss : List Stmt} :
    ∀ {depth : Nat} {p : Place} {table : SeedTable}, seatAt? name depth ss = some (p, table) →
      p.seed? name ss = some table := by
  induction ss using suites_induct with
  | nil => simp [seatAt?]
  | cons s rest hsuite hrest =>
    intro depth p table h
    rw [seatAt?, Option.or_eq_some_iff] at h
    rcases h with h | ⟨-, h⟩
    · cases depth with
      | zero =>
        rw [s.seatAt?_zero] at h
        obtain ⟨_, htable, heq⟩ := Option.map_eq_some_iff.1 h
        cases heq
        exact htable
      | succ depth =>
        rw [s.seatAt?_succ] at h
        obtain ⟨which, -, h⟩ := List.exists_of_findSome?_eq_some h
        obtain ⟨_, hfound, heq⟩ := Option.map_eq_some_iff.1 h
        cases heq
        exact hsuite which hfound
    · obtain ⟨⟨q, _⟩, hfound, heq⟩ := Option.map_eq_some_iff.1 h
      cases heq
      exact (q.seed?_next name s rest).trans (hrest hfound)

/-! ## The search of all levels -/

/-- What is found among numbers in order is found at the first number with a find. -/
private theorem exists_first_of_findSome?_range {β : Type} {f : Nat → Option β} {n : Nat} {b : β}
    (h : (List.range n).findSome? f = some b) : ∃ k, f k = some b ∧ ∀ j, j < k → f j = none := by
  induction n with
  | zero => exact absurd h (by simp)
  | succ n ih =>
    rw [List.range_succ, List.findSome?_append] at h
    cases hn : (List.range n).findSome? f with
    | some c =>
      rw [hn, Option.some_or] at h
      exact ih (hn.trans h)
    | none =>
      rw [hn, Option.none_or, List.findSome?_singleton] at h
      have hnone : ∀ j, j < n → f j = none := by simpa using hn
      exact ⟨n, h, hnone⟩

namespace Tree

variable {name : String} {t : Tree} {p : Place} {table : SeedTable}

theorem isSeat_of_seat? (h : t.seat? name = some (p, table)) :
    IsSeat name t p ∧ p.seed? name t = some table := by
  obtain ⟨depth, hp, hnone⟩ := exists_first_of_findSome?_range h
  have hfirst : firstAt? name depth t = some p := by rw [← map_fst_seatAt?, hp, Option.map_some]
  obtain ⟨rfl, hassigned⟩ := isSome_of_firstAt? hfirst
  refine ⟨⟨hassigned, fun q hq hne => ?_⟩, seed?_of_seatAt? hp⟩
  rcases Nat.lt_trichotomy p.depth q.depth with hlt | heq | hgt
  · exact .inl hlt
  · exact .inr ⟨heq, precedes_of_firstAt? hfirst hq heq.symm hne⟩
  · have hnot : firstAt? name q.depth t = none := by rw [← map_fst_seatAt?, hnone q.depth hgt, Option.map_none]
    exact absurd rfl (firstAt?_eq_none hnot hq)

/-- The search succeeds if any place assigns a dict display to the name. -/
theorem isSome_seat? (h : (p.seed? name t).isSome) : (t.seat? name).isSome := by
  rw [seat?, List.findSome?_isSome_iff]
  refine ⟨p.depth, List.mem_range.2 (Place.depth_lt_heightOf (Place.isSome_stmt?_of_seed? h)), ?_⟩
  by_contra hnone
  have hnot : firstAt? name p.depth t = none := by
    rw [← map_fst_seatAt?, Option.not_isSome_iff_eq_none.1 hnone, Option.map_none]
  exact firstAt?_eq_none hnot h rfl

/-- The search finds the seat, and the dict display there. -/
theorem seat?_eq_some_iff : t.seat? name = some (p, table) ↔ IsSeat name t p ∧ p.seed? name t = some table := by
  refine ⟨isSeat_of_seat?, fun ⟨hp, htable⟩ => ?_⟩
  obtain ⟨⟨q, other⟩, hq⟩ := Option.isSome_iff_exists.1 (isSome_seat? hp.assigned)
  obtain ⟨hseat, hother⟩ := isSeat_of_seat? hq
  obtain rfl := hseat.unique hp
  rw [hq, Option.some.inj (hother.symm.trans htable)]

/-- The search fails if no place assigns a dict display to the name. -/
theorem seat?_eq_none_iff : t.seat? name = none ↔ ∀ p : Place, p.seed? name t = none := by
  constructor
  · intro h p
    by_contra hp
    have hsome := isSome_seat? (Option.isSome_iff_ne_none.2 hp)
    rw [h] at hsome
    cases hsome
  · intro h
    cases hseat : t.seat? name with
    | none => rfl
    | some found => cases (isSeat_of_seat? hseat).2.symm.trans (h found.1)

theorem seedTable?_eq_some_iff :
    t.seedTable? name = some table ↔ ∃ p, IsSeat name t p ∧ p.seed? name t = some table := by
  simp only [seedTable?, Option.map_eq_some_iff, Prod.exists, exists_eq_right, seat?_eq_some_iff]

theorem seedTable?_eq_none_iff : t.seedTable? name = none ↔ ∀ p : Place, p.seed? name t = none := by
  rw [seedTable?, Option.map_eq_none_iff, seat?_eq_none_iff]

/-- After entries are added at the seat the search finds the dict display with the entries at its end. -/
theorem seedTable?_modify_grow (hp : IsSeat name t p) (h : t.seedTable? name = some table) (more : List Entry) :
    seedTable? name (p.modify (Stmt.grow more) t) = some ⟨table.entries ++ more, table.pos⟩ := by
  obtain ⟨q, hq, htable⟩ := seedTable?_eq_some_iff.1 h
  obtain rfl := hq.unique hp
  refine seedTable?_eq_some_iff.2 ⟨q, hq.modify_grow more, ?_⟩
  rw [Place.seed?_modify_self, htable, Option.map_some]

end Tree

end Crosswalk

import Crosswalk.Proofs.Tree.Seat

/-!
# The outermost table, and the first of those

The search for the seed table is the first find of a walk by a queue, `seedTable?_eq_findSome?_queued`: the invariant is
that the queue holds the rest of a level and after it what is known of the next one. In terms of places the find
is the one of least depth and the first of that depth, and what is put into the tree at a greater depth does not change
it. The main statement is `seedTable?_outermost`.
-/

namespace Crosswalk

/-! ## What assigns a table -/

/-- The statement assigns the dict display to the name: with other targets or alone, or with an annotation. -/
inductive Simple.Assigns (name : String) : Simple → SeedTable → Prop
  | assign {targets : List Expr} (entries : List Entry) (pos : Pos) (h : .name name ∈ targets) :
      Assigns name (.assign targets (.dict entries) pos) ⟨entries, pos⟩
  | annotated (isBare : Bool) (note : Expr) (entries : List Entry) (pos : Pos) :
      Assigns name (.annotated (.name name) isBare note (some (.dict entries)) pos) ⟨entries, pos⟩

/-- The statement itself, not one in its suites, assigns the dict display to the name. -/
def Stmt.Assigns (name : String) (s : Stmt) (table : SeedTable) : Prop :=
  ∃ span content, s = .simple span content ∧ content.Assigns name table

theorem Expr.isName_iff {name : String} {e : Expr} : e.isName name ↔ e = .name name := by
  constructor
  · intro h
    unfold isName at h
    split at h
    · rw [beq_iff_eq.1 h]
    · cases h
  · rintro rfl
    exact beq_self_eq_true name

theorem Simple.seed?_eq_some_iff {name : String} {content : Simple} {table : SeedTable} :
    content.seed? name = some table ↔ content.Assigns name table := by
  constructor
  · intro h
    unfold seed? at h
    split at h
    · split at h
      · rename_i htargets
        cases h
        obtain ⟨target, htarget, hname⟩ := List.any_eq_true.1 htargets
        exact .assign _ _ (Expr.isName_iff.1 hname ▸ htarget)
      · cases h
    · split at h
      · rename_i htarget
        cases h
        rw [Expr.isName_iff.1 htarget]
        exact .annotated _ _ _ _
      · cases h
    · cases h
  · intro h
    cases h with
    | assign entries pos h => exact if_pos (List.any_eq_true.2 ⟨_, h, Expr.isName_iff.2 rfl⟩)
    | annotated isBare note entries pos => exact if_pos (Expr.isName_iff.2 rfl)

theorem Stmt.seed?_eq_some_iff {name : String} {s : Stmt} {table : SeedTable} :
    s.seed? name = some table ↔ s.Assigns name table := by
  unfold Assigns
  cases s with
  | simple span content => simp [seed?, Simple.seed?_eq_some_iff]
  | comment => simp [seed?]
  | block => simp [seed?]

/-- The place assigns the dict display to the name, at the least depth of all places that assign one and before the
others of that depth. -/
structure Outermost (name : String) (t : Tree) (p : Place) (table : SeedTable) : Prop where
  assigns : ∃ s, p.stmt? t = some s ∧ s.Assigns name table
  first : ∀ (q : Place) (s : Stmt) (other : SeedTable), q.stmt? t = some s → s.Assigns name other → q ≠ p →
    p.depth < q.depth ∨ p.depth = q.depth ∧ p.Precedes q

theorem Place.seed?_eq_some_iff {name : String} {t : Tree} {p : Place} {table : SeedTable} :
    p.seed? name t = some table ↔ ∃ s, p.stmt? t = some s ∧ s.Assigns name table := by
  rw [seed?, Option.bind_eq_some_iff]
  simp only [Stmt.seed?_eq_some_iff]

theorem outermost_iff {name : String} {t : Tree} {p : Place} {table : SeedTable} :
    Outermost name t p table ↔ IsSeat name t p ∧ p.seed? name t = some table := by
  constructor
  · intro h
    have hseed := Place.seed?_eq_some_iff.2 h.assigns
    refine ⟨⟨by rw [hseed]; rfl, fun q hq hne => ?_⟩, hseed⟩
    obtain ⟨other, hother⟩ := Option.isSome_iff_exists.1 hq
    obtain ⟨s, hs, hassigns⟩ := Place.seed?_eq_some_iff.1 hother
    exact h.first q s other hs hassigns hne
  · rintro ⟨hseat, hseed⟩
    refine ⟨Place.seed?_eq_some_iff.1 hseed, fun q s other hs hassigns hne => hseat.first q ?_ hne⟩
    rw [Place.seed?_eq_some_iff.2 ⟨s, hs, hassigns⟩]
    rfl

/-! ## The walk by a queue -/

namespace Tree

/-- The statements in the order in which a queue gives them out, where each one puts its children at the end. -/
def queued : List Stmt → List Stmt
  | [] => []
  | s :: queue => s :: queued (queue ++ s.children)
termination_by queue => (flattenAll queue).length
decreasing_by
  rw [flattenAll_append, flattenAll, s.flatten_eq_cons]
  simp only [List.length_append, List.length_cons]
  omega

/-- When a level has been given out, the queue holds the next one. -/
theorem queued_append (ss next : List Stmt) :
    queued (ss ++ next) = ss ++ queued (next ++ ss.flatMap Stmt.children) := by
  induction ss generalizing next with
  | nil => simp
  | cons s ss ih =>
    rw [List.cons_append, queued, List.append_assoc, ih, List.flatMap_cons, List.append_assoc]
    rfl

theorem queued_eq_levels {n : Nat} {ss : List Stmt} (h : heightOf ss ≤ n) : queued ss = levels n ss := by
  induction n generalizing ss with
  | zero =>
    cases ss with
    | nil => rw [queued, levels]
    | cons s rest =>
      have := s.heightOf_children_lt
      rw [heightOf] at h
      omega
  | succ n ih =>
    have hlevel := queued_append ss []
    rw [List.append_nil, List.nil_append] at hlevel
    rw [hlevel, levels, ih (heightOf_flatMap_children h)]

/-- The queue gives out the statements level by level. -/
theorem queued_eq_walk (t : Tree) : queued t = t.walk := queued_eq_levels (Nat.le_refl _)

end Tree

/-- The dict display that the search of one level finds. -/
def tableAt? (name : String) (depth : Nat) (ss : List Stmt) : Option SeedTable := (seatAt? name depth ss).map (·.2)

theorem tableAt?_cons (name : String) (depth : Nat) (s : Stmt) (ss : List Stmt) :
    tableAt? name depth (s :: ss) = ((s.seatAt? name depth).map (·.2)).or (tableAt? name depth ss) := by
  rw [tableAt?, seatAt?, Option.map_or, Option.map_map]
  rfl

theorem tableAt?_append (name : String) (depth : Nat) (ss ss' : List Stmt) :
    tableAt? name depth (ss ++ ss') = (tableAt? name depth ss).or (tableAt? name depth ss') := by
  induction ss with
  | nil => rw [List.nil_append, tableAt?, tableAt?, seatAt?, Option.map_none, Option.none_or]
  | cons s ss ih => rw [List.cons_append, tableAt?_cons, tableAt?_cons, ih, Option.or_assoc]

theorem tableAt?_zero (name : String) (ss : List Stmt) : tableAt? name 0 ss = ss.findSome? (Stmt.seed? name) := by
  induction ss with
  | nil => rfl
  | cons s ss ih =>
    rw [tableAt?_cons, s.seatAt?_zero, ih, List.findSome?_cons]
    cases s.seed? name <;> rfl

/-- A level further inside is a level of the children. -/
theorem tableAt?_succ (name : String) (depth : Nat) (ss : List Stmt) :
    tableAt? name (depth + 1) ss = tableAt? name depth (ss.flatMap Stmt.children) := by
  have hone (s : Stmt) : (s.seatAt? name (depth + 1)).map (·.2) = tableAt? name depth s.children := by
    cases s with
    | block =>
      simp only [Stmt.seatAt?, Stmt.children, tableAt?_append, Option.map_or, Option.map_map]
      rfl
    | comment => simp [Stmt.seatAt?, Stmt.children, tableAt?, seatAt?]
    | simple => simp [Stmt.seatAt?, Stmt.children, tableAt?, seatAt?]
  induction ss with
  | nil => rfl
  | cons s ss ih => rw [tableAt?_cons, ih, hone, List.flatMap_cons, tableAt?_append]

/-- The search of some levels is a search through their statements. -/
theorem findSome?_levels (name : String) (n : Nat) (ss : List Stmt) :
    (Tree.levels n ss).findSome? (Stmt.seed? name) = (List.range n).findSome? fun depth => tableAt? name depth ss := by
  induction n generalizing ss with
  | zero => rfl
  | succ n ih =>
    rw [Tree.levels, List.findSome?_append, ih, List.range_succ_eq_map, List.findSome?_cons, tableAt?_zero,
      List.findSome?_map]
    simp only [Function.comp_def, tableAt?_succ]
    cases ss.findSome? (Stmt.seed? name) <;> rfl

/-- The search finds what a walk by a queue finds first. -/
theorem Tree.seedTable?_eq_findSome?_queued (name : String) (t : Tree) :
    t.seedTable? name = (queued t).findSome? (Stmt.seed? name) := by
  rw [queued_eq_walk, walk, findSome?_levels, seedTable?, seat?, List.map_findSome?]
  rfl

/-! ## Statements put into a tree -/

/-- Puts a statement or a comment at a place, in front of what stands there. -/
def Place.insert (new : Stmt) : Place → List Stmt → List Stmt
  | here i, ss => ss.insertIdx i new
  | inside i which rest, ss => ss.modify i (·.mapSuite which (rest.insert new))

/-- Up to the depth of what is put in, each place keeps its statement, but for what stands in its suites. -/
theorem Place.shell_stmt?_insert {p q : Place} (h : q.depth < p.depth) (new : Stmt) (ss : List Stmt) :
    (q.stmt? (p.insert new ss)).map Stmt.shell = (q.stmt? ss).map Stmt.shell := by
  -- along the place of what is put in: where the other one leaves it, nothing has changed
  induction p generalizing q ss with
  | here i => exact absurd h (Nat.not_lt_zero _)
  | inside i which p ih =>
    cases q with
    | here j =>
      rw [stmt?, stmt?, insert, List.getElem?_modify]
      cases ss[j]? with
      | none => rfl
      | some s => by_cases hij : i = j <;> simp [hij]
    | inside j other q =>
      have hdepth : q.depth < p.depth := Nat.lt_of_succ_lt_succ h
      rw [stmt?, stmt?, insert]
      by_cases hij : i = j
      · subst hij
        rw [List.getElem?_modify_eq]
        cases ss[i]? with
        | none => rfl
        | some s =>
          show (q.stmt? ((s.mapSuite which (p.insert new)).suite other)).map _ = (q.stmt? (s.suite other)).map _
          by_cases hwhich : other = which
          · subst hwhich
            cases s with
            | block span head body handlers orelse final => cases other <;> exact ih hdepth _
            | comment => rfl
            | simple => rfl
          · rw [Stmt.suite_mapSuite_of_ne hwhich]
      · rw [List.getElem?_modify_ne _ _ hij]

/-- A tree that assigns the same up to the depth of the seat has the same seat. -/
theorem IsSeat.of_outer {name : String} {t t' : Tree} {p : Place} (hp : IsSeat name t p)
    (h : ∀ q : Place, q.depth ≤ p.depth → q.seed? name t' = q.seed? name t) : IsSeat name t' p := by
  refine ⟨(h p (Nat.le_refl _)).symm ▸ hp.assigned, fun q hq hne => ?_⟩
  by_cases hdepth : q.depth ≤ p.depth
  · exact hp.first q (h q hdepth ▸ hq) hne
  · exact .inl (by omega)

namespace Outermost

variable {name : String} {t : Tree} {p : Place} {table : SeedTable}

/-- One statement put in further inside leaves the outermost table as it is. -/
theorem insert (h : Outermost name t p table) {q : Place} (hq : p.depth < q.depth) (new : Stmt) :
    Outermost name (q.insert new t) p table := by
  obtain ⟨hseat, hseed⟩ := outermost_iff.1 h
  have hsame : ∀ r : Place, r.depth ≤ p.depth → r.seed? name (q.insert new t) = r.seed? name t := fun r hr => by
    rw [Place.seed?_eq_bind_shell, Place.seed?_eq_bind_shell, Place.shell_stmt?_insert (by omega)]
  exact outermost_iff.2 ⟨hseat.of_outer hsame, (hsame p (Nat.le_refl _)).trans hseed⟩

/-- Neither do any number of them. -/
theorem insertAll (news : List (Place × Stmt)) (hnews : ∀ new ∈ news, p.depth < new.1.depth)
    (h : Outermost name t p table) :
    Outermost name (news.foldl (fun t new => new.1.insert new.2 t) t) p table := by
  induction news generalizing t with
  | nil => exact h
  | cons new news ih =>
    exact ih (fun other hother => hnews other (List.mem_cons_of_mem new hother))
      (h.insert (hnews new List.mem_cons_self) new.2)

/-- The outermost table is at the top level if any is. -/
theorem top (h : Outermost name t p table) {i : Nat} {s : Stmt} {other : SeedTable} (hs : t[i]? = some s)
    (hassigns : s.Assigns name other) : ∃ j, p = .here j ∧ j ≤ i := by
  by_cases hp : .here i = p
  · exact ⟨i, hp.symm, Nat.le_refl i⟩
  rcases h.first (.here i) s other hs hassigns hp with hlt | ⟨hdepth, hprecedes⟩
  · exact absurd hlt (Nat.not_lt_zero _)
  · cases p with
    | inside => cases hdepth
    | here j =>
      cases hprecedes with
      | index hlt => exact ⟨j, rfl, Nat.le_of_lt hlt⟩

end Outermost

namespace Tree

theorem seedTable?_eq_some_iff_outermost {name : String} {t : Tree} {table : SeedTable} :
    t.seedTable? name = some table ↔ ∃ p, Outermost name t p table := by
  rw [seedTable?_eq_some_iff]
  simp only [outermost_iff]

theorem seedTable?_eq_none_iff_forall {name : String} {t : Tree} :
    t.seedTable? name = none ↔ ∀ s ∈ flattenAll t, ∀ table, ¬ s.Assigns name table := by
  rw [seedTable?_eq_findSome?_queued, queued_eq_walk, List.findSome?_eq_none_iff]
  refine ⟨fun h s hs table hassigns => ?_, fun h s hs => ?_⟩
  · have := h s (t.perm_walk.mem_iff.2 hs)
    rw [Stmt.seed?_eq_some_iff.2 hassigns] at this
    cases this
  · by_contra hne
    obtain ⟨table, htable⟩ := Option.ne_none_iff_exists'.1 hne
    exact h s (t.perm_walk.mem_iff.1 hs) table (Stmt.seed?_eq_some_iff.1 htable)

/-- The search fails just if no statement of the tree assigns a dict display to the name. Else it finds the outermost
one, and the first of those, which is also the first that a queue gives out. So one at the top level is found before
all that are not, and what is put into the tree further inside than the find does not change it. -/
theorem seedTable?_outermost (name : String) (t : Tree) :
    (t.seedTable? name = none ↔ ∀ s ∈ flattenAll t, ∀ table, ¬ s.Assigns name table) ∧
      (∀ table, t.seedTable? name = some table ↔ ∃ p, Outermost name t p table) ∧
      t.seedTable? name = (queued t).findSome? (Stmt.seed? name) ∧
      (∀ (i : Nat) (s : Stmt) (other : SeedTable), t[i]? = some s → s.Assigns name other →
        ∃ (j : Nat) (first : Stmt) (table : SeedTable), j ≤ i ∧ t[j]? = some first ∧ first.Assigns name table ∧
          t.seedTable? name = some table) ∧
      ∀ (p : Place) (table : SeedTable), Outermost name t p table →
        ∀ news : List (Place × Stmt), (∀ new ∈ news, p.depth < new.1.depth) →
          seedTable? name (news.foldl (fun t new => new.1.insert new.2 t) t) = t.seedTable? name := by
  refine ⟨seedTable?_eq_none_iff_forall, fun table => seedTable?_eq_some_iff_outermost,
    seedTable?_eq_findSome?_queued name t, fun i s other hs hassigns => ?_, fun p table hp news hnews => ?_⟩
  · cases hfound : t.seedTable? name with
    | none =>
      have hmem := mem_flattenAll_of_mem (List.mem_of_getElem? hs)
      exact absurd hassigns (seedTable?_eq_none_iff_forall.1 hfound s hmem other)
    | some table =>
      obtain ⟨p, hp⟩ := seedTable?_eq_some_iff_outermost.1 hfound
      obtain ⟨j, rfl, hj⟩ := hp.top hs hassigns
      obtain ⟨first, hfirst, htable⟩ := hp.assigns
      exact ⟨j, first, table, hj, hfirst, htable, rfl⟩
  · rw [seedTable?_eq_some_iff_outermost.2 ⟨p, hp⟩]
    exact seedTable?_eq_some_iff_outermost.2 ⟨p, hp.insertAll news hnews⟩

end Tree

end Crosswalk

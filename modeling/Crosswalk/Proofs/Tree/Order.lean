import Crosswalk.Proofs.Tree.Place
import Crosswalk.Proofs.Tree.Walk

/-!
# Places in the order of the source

`places` lists the places of a tree that have a statement: all of them, `mem_places`, and in the order of the
source, `pairwise_places`. The statements at these places are those that `flattenAll` lists.
-/

namespace Crosswalk

namespace Place

@[simp] theorem stmt?_next (p : Place) (s : Stmt) (rest : List Stmt) :
    p.next.stmt? (s :: rest) = p.stmt? rest := by
  cases p <;> simp [next, stmt?]

@[simp] theorem stmt?_here_zero (s : Stmt) (rest : List Stmt) :
    (here 0).stmt? (s :: rest) = some s := rfl

@[simp] theorem stmt?_inside_zero (which : Suite) (p : Place) (s : Stmt) (rest : List Stmt) :
    (inside 0 which p).stmt? (s :: rest) = p.stmt? (s.suite which) := rfl

@[simp] theorem depth_next (p : Place) : p.next.depth = p.depth := by
  cases p <;> rfl

@[simp] theorem modify_next (f : Stmt → Stmt) (p : Place) (s : Stmt) (rest : List Stmt) :
    p.next.modify f (s :: rest) = s :: p.modify f rest := by
  cases p <;> simp [next, modify]

@[simp] theorem index_next (p : Place) : p.next.index = p.index + 1 := by
  cases p <;> rfl

theorem Precedes.next {p q : Place} (h : Precedes p q) : Precedes p.next q.next := by
  cases h with
  | index h => exact .index (by simpa using h)
  | block i which q => exact .block (i + 1) which q
  | suite i p q h => exact .suite (i + 1) p q h
  | rest i which h => exact .rest (i + 1) which h

end Place

mutual

/-- The places in the suites of a statement, seen from the statement's own place, which is the first. -/
def Stmt.placesWithin : Stmt → List Place
  | .block _ _ body handlers orelse final =>
    (places body).map (.inside 0 .body) ++ (places handlers).map (.inside 0 .handlers) ++
      (places orelse).map (.inside 0 .orelse) ++ (places final).map (.inside 0 .final)
  | _ => []

/-- The places among some statements, in the order of the source. -/
def places : List Stmt → List Place
  | [] => []
  | s :: rest => .here 0 :: (s.placesWithin ++ (places rest).map Place.next)

end

theorem Stmt.placesWithin_eq (s : Stmt) :
    s.placesWithin = Suite.all.flatMap fun which => (places (s.suite which)).map (.inside 0 which) := by
  cases s with
  | block => simp [placesWithin, Suite.all, Stmt.suite]
  | comment => simp [placesWithin, places]
  | simple => simp [placesWithin, places]

/-- Every place with a statement is listed. -/
theorem mem_places (ss : List Stmt) : ∀ p, p ∈ places ss ↔ (p.stmt? ss).isSome := by
  induction ss using suites_induct with
  | nil => simp [places]
  | cons s rest hsuite hrest =>
    intro p
    rw [places, List.mem_cons, List.mem_append, s.placesWithin_eq]
    simp only [List.mem_flatMap, List.mem_map]
    -- only a place of the shape of one of the three parts of the list can be in that part
    cases p with
    | here i =>
      cases i with
      | zero => simp
      | succ i =>
        have := hrest (.here i)
        constructor
        · rintro (h | ⟨_, _, _, _, h⟩ | ⟨q, hq, h⟩)
          · cases h
          · cases h
          · exact h ▸ (by simpa using (hrest q).1 hq)
        · intro h
          exact .inr (.inr ⟨.here i, this.2 h, rfl⟩)
    | inside i which p =>
      cases i with
      | zero =>
        constructor
        · rintro (h | ⟨_, _, q, hq, h⟩ | ⟨q, _, h⟩)
          · cases h
          · cases h
            exact (hsuite which p).1 hq
          · cases q <;> cases h
        · intro h
          exact .inr (.inl ⟨which, which.mem_all, p, (hsuite which p).2 h, rfl⟩)
      | succ i =>
        constructor
        · rintro (h | ⟨_, _, _, _, h⟩ | ⟨q, hq, h⟩)
          · cases h
          · cases h
          · exact h ▸ (by simpa using (hrest q).1 hq)
        · intro h
          exact .inr (.inr ⟨.inside i which p, (hrest _).2 h, rfl⟩)

/-- The places are listed in the order of the source. -/
theorem pairwise_places (ss : List Stmt) : (places ss).Pairwise Place.Precedes := by
  induction ss using suites_induct with
  | nil => simp [places]
  | cons s rest hsuite hrest =>
    rw [places, List.pairwise_cons, List.pairwise_append, s.placesWithin_eq]
    refine ⟨fun p hp => ?_, ?_, ?_, fun p hp q hq => ?_⟩
    -- the statement itself comes before all others
    · rcases List.mem_append.1 hp with hp | hp
      · obtain ⟨which, -, hp⟩ := List.mem_flatMap.1 hp
        obtain ⟨q, -, rfl⟩ := List.mem_map.1 hp
        exact .block 0 which q
      · obtain ⟨q, -, rfl⟩ := List.mem_map.1 hp
        exact .index (by simp)
    -- in one suite the order is that of the suite, and between suites that of their ranks
    · have hwithin (which : Suite) :
          ((places (s.suite which)).map (Place.inside 0 which)).Pairwise Place.Precedes :=
        (hsuite which).map _ fun p q h => .rest 0 which h
      have hacross {which other : Suite} (h : which.rank < other.rank) :
          ∀ p ∈ (places (s.suite which)).map (Place.inside 0 which),
            ∀ q ∈ (places (s.suite other)).map (Place.inside 0 other), Place.Precedes p q := by
        intro p hp q hq
        obtain ⟨p, -, rfl⟩ := List.mem_map.1 hp
        obtain ⟨q, -, rfl⟩ := List.mem_map.1 hq
        exact .suite 0 p q h
      rw [List.pairwise_flatMap]
      refine ⟨fun which _ => hwithin which, ?_⟩
      have hranks : Suite.all.Pairwise fun which other => which.rank < other.rank := by decide
      exact hranks.imp fun h => hacross h
    · exact hrest.map _ fun p q h => h.next
    · obtain ⟨which, -, hp⟩ := List.mem_flatMap.1 hp
      obtain ⟨p, -, rfl⟩ := List.mem_map.1 hp
      obtain ⟨q, -, rfl⟩ := List.mem_map.1 hq
      exact .index (by simp)

theorem nodup_places (ss : List Stmt) : (places ss).Nodup :=
  (pairwise_places ss).imp fun {p q} hpq (heq : p = q) => hpq.asymm (heq ▸ hpq)

/-- Trees with statements at the same places list the same places. -/
theorem places_congr {ss ss' : List Stmt} (h : ∀ p : Place, (p.stmt? ss).isSome = (p.stmt? ss').isSome) :
    places ss = places ss' := by
  have hmem : ∀ p, p ∈ places ss ↔ p ∈ places ss' := fun p => by
    rw [mem_places, mem_places, h p]
  have hperm : (places ss).Perm (places ss') := (List.perm_ext_iff_of_nodup (nodup_places ss) (nodup_places ss')).2 hmem
  exact hperm.eq_of_pairwise (fun p q _ _ hpq hqp => absurd hqp hpq.asymm) (pairwise_places ss)
    (pairwise_places ss')

theorem Stmt.flatten_eq (s : Stmt) :
    s.flatten = s :: Suite.all.flatMap fun which => flattenAll (s.suite which) := by
  cases s with
  | block => simp [Stmt.flatten, Suite.all, Stmt.suite]
  | comment => simp [Stmt.flatten, flattenAll]
  | simple => simp [Stmt.flatten, flattenAll]

/-- What holds of all statements of a tree holds of the first one, of those in it and of the others. -/
theorem forall_mem_flattenAll_cons {P : Stmt → Prop} {s : Stmt} {rest : List Stmt} :
    (∀ x ∈ flattenAll (s :: rest), P x) ↔
      P s ∧ (∀ which, ∀ x ∈ flattenAll (s.suite which), P x) ∧ ∀ x ∈ flattenAll rest, P x := by
  simp only [flattenAll, s.flatten_eq, List.cons_append, List.forall_mem_cons, List.forall_mem_append,
    List.mem_flatMap, forall_exists_index, and_imp]
  refine and_congr_right fun _ => and_congr_left fun _ => ?_
  exact ⟨fun h which x hx => h x which which.mem_all hx, fun h x which _ hx => h which x hx⟩

theorem Tree.declarations_cons (name : String) (s : Stmt) (rest : List Stmt) :
    Tree.declarations name (s :: rest) = [s].filter (·.isDeclaration name) ++
      (Suite.all.flatMap fun which => Tree.declarations name (s.suite which)) ++ Tree.declarations name rest := by
  rw [Tree.declarations, flattenAll, s.flatten_eq, List.filter_append, ← List.singleton_append,
    List.filter_append, List.filter_flatMap]
  rfl

/-- The statements in the order of the source are those at the places in that order. -/
theorem flattenAll_eq (ss : List Stmt) : flattenAll ss = (places ss).filterMap (·.stmt? ss) := by
  induction ss using suites_induct with
  | nil => rw [flattenAll, places, List.filterMap_nil]
  | cons s rest hsuite hrest =>
    rw [flattenAll, places, s.flatten_eq, s.placesWithin_eq, List.filterMap_cons, hrest]
    simp [List.filterMap_append, List.filterMap_flatMap, List.filterMap_map, Function.comp_def, hsuite]

end Crosswalk

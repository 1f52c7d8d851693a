import Crosswalk.Syntax.Place
import Mathlib.Data.List.Basic
import Mathlib.Tactic.Common

/-!
# Places in a tree

What a pass does to a tree is said place by place: `stmt?_mapSimpleAll` for a change of all simple statements
and `shell_stmt?_modify` for a change at one place. That one place comes before another one in the source is
`Place.Precedes`.
-/

namespace Crosswalk

namespace Suite

/-- The suites in the order of the source. -/
def all : List Suite := [body, handlers, orelse, final]

/-- The position of a suite among the suites. -/
def rank : Suite → Nat
  | body => 0
  | handlers => 1
  | orelse => 2
  | final => 3

theorem mem_all (which : Suite) : which ∈ all := by
  cases which <;> simp [all]

end Suite

namespace Stmt

/-- A statement without what stands in its suites. -/
def shell : Stmt → Stmt
  | .block span head _ _ _ _ => .block span head [] [] [] []
  | s => s

@[simp] theorem suite_comment (which : Suite) (c : Comment) : (Stmt.comment c).suite which = [] := by
  cases which <;> rfl

@[simp] theorem suite_simple (which : Suite) (span : Span) (content : Simple) :
    (Stmt.simple span content).suite which = [] := by
  cases which <;> rfl

@[simp] theorem shell_mapSuite (which : Suite) (f : List Stmt → List Stmt) (s : Stmt) :
    (s.mapSuite which f).shell = s.shell := by
  cases s with
  | block => cases which <;> rfl
  | _ => rfl

theorem suite_mapSuite_self {which : Suite} {f : List Stmt → List Stmt} (hf : f [] = []) (s : Stmt) :
    (s.mapSuite which f).suite which = f (s.suite which) := by
  cases s with
  | block => cases which <;> rfl
  | comment => simp [mapSuite, hf]
  | simple => simp [mapSuite, hf]

theorem suite_mapSuite_of_ne {which other : Suite} (h : other ≠ which) (f : List Stmt → List Stmt)
    (s : Stmt) : (s.mapSuite which f).suite other = s.suite other := by
  cases s with
  | block => cases which <;> cases other <;> simp_all [mapSuite, suite]
  | _ => rfl

end Stmt

/-! ## Induction over the suites of a tree -/

mutual

private theorem Stmt.forall_suite {P : List Stmt → Prop} (nil : P [])
    (cons : ∀ s rest, (∀ which : Suite, P (s.suite which)) → P rest → P (s :: rest))
    (s : Stmt) (which : Suite) : P (s.suite which) := by
  cases s with
  | comment c => simpa using nil
  | simple span content => simpa using nil
  | block span head body handlers orelse final =>
    cases which with
    | body => exact suites_induct nil cons body
    | handlers => exact suites_induct nil cons handlers
    | orelse => exact suites_induct nil cons orelse
    | final => exact suites_induct nil cons final

/-- What holds of no statements, and of a statement and others if it holds of the suites of the one and of
the others, holds of all statements. -/
theorem suites_induct {P : List Stmt → Prop} (nil : P [])
    (cons : ∀ s rest, (∀ which : Suite, P (s.suite which)) → P rest → P (s :: rest))
    (ss : List Stmt) : P ss := by
  cases ss with
  | nil => exact nil
  | cons s rest => exact cons s rest (Stmt.forall_suite nil cons s) (suites_induct nil cons rest)

end

/-! ## Places -/

namespace Place

/-- The number of suites around the place. -/
def depth : Place → Nat
  | here _ => 0
  | inside _ _ rest => rest.depth + 1

/-- The index of the statement that the place is at or in. -/
def index : Place → Nat
  | here i => i
  | inside i _ _ => i

@[simp] theorem depth_here (i : Nat) : (here i).depth = 0 := rfl

@[simp] theorem depth_inside (i : Nat) (which : Suite) (p : Place) :
    (inside i which p).depth = p.depth + 1 := rfl

@[simp] theorem index_here (i : Nat) : (here i).index = i := rfl

@[simp] theorem index_inside (i : Nat) (which : Suite) (p : Place) : (inside i which p).index = i := rfl

/-- The order of the source, where a block comes before what stands in it. -/
inductive Precedes : Place → Place → Prop
  | index {p q : Place} (h : p.index < q.index) : Precedes p q
  | block (i : Nat) (which : Suite) (q : Place) : Precedes (here i) (inside i which q)
  | suite (i : Nat) {which other : Suite} (p q : Place) (h : which.rank < other.rank) :
      Precedes (inside i which p) (inside i other q)
  | rest (i : Nat) (which : Suite) {p q : Place} (h : Precedes p q) :
      Precedes (inside i which p) (inside i which q)

/-- Two places do not precede each other. -/
theorem Precedes.asymm {p q : Place} (h : Precedes p q) : ¬ Precedes q p := by
  induction h with
  | index h =>
    intro h'
    cases h' with
    | index h' => omega
    | block => exact absurd h (by simp)
    | suite => exact absurd h (by simp)
    | rest => exact absurd h (by simp)
  | block i which q =>
    intro h'
    cases h' with
    | index h' => exact absurd h' (by simp)
  | suite i p q h =>
    intro h'
    cases h' with
    | index h' => exact absurd h' (by simp)
    | suite _ _ _ h' => omega
    | rest => exact absurd h (Nat.lt_irrefl _)
  | rest i which h ih =>
    intro h'
    cases h' with
    | index h' => exact absurd h' (by simp)
    | suite _ _ _ h' => exact absurd h' (Nat.lt_irrefl _)
    | rest _ _ h' => exact ih h'

@[simp] theorem stmt?_nil (p : Place) : p.stmt? [] = none := by
  cases p <;> simp [stmt?]

@[simp] theorem modify_nil (f : Stmt → Stmt) (p : Place) : p.modify f [] = [] := by
  cases p <;> simp [modify]

end Place

/-! ## Changing all simple statements -/

mutual

/-- Replaces a statement without suites, or those in a statement. -/
def Stmt.mapSimple (f : Stmt → Stmt) : Stmt → Stmt
  | .block span head body handlers orelse final =>
    .block span head (mapSimpleAll f body) (mapSimpleAll f handlers) (mapSimpleAll f orelse)
      (mapSimpleAll f final)
  | s => f s

/-- Replaces the statements without suites among and in some statements. -/
def mapSimpleAll (f : Stmt → Stmt) : List Stmt → List Stmt
  | [] => []
  | s :: rest => s.mapSimple f :: mapSimpleAll f rest

end

namespace Place

theorem mapSimpleAll_eq_map (f : Stmt → Stmt) (ss : List Stmt) :
    mapSimpleAll f ss = ss.map (Stmt.mapSimple f) := by
  induction ss with
  | nil => rw [mapSimpleAll, List.map_nil]
  | cons s rest ih => rw [mapSimpleAll, ih, List.map_cons]

@[simp] theorem mapSimple_comment (f : Stmt → Stmt) (c : Comment) :
    (Stmt.comment c).mapSimple f = f (.comment c) := rfl

@[simp] theorem mapSimple_simple (f : Stmt → Stmt) (span : Span) (content : Simple) :
    (Stmt.simple span content).mapSimple f = f (.simple span content) := rfl

/-- A change that keeps suites as they are does to a suite what it does to a source. -/
theorem suite_mapSimple {f : Stmt → Stmt} (hf : ∀ s which, (f s).suite which = s.suite which)
    (s : Stmt) (which : Suite) : (s.mapSimple f).suite which = mapSimpleAll f (s.suite which) := by
  cases s with
  | block =>
    rw [Stmt.mapSimple]
    cases which <;> rfl
  | comment c => rw [mapSimple_comment, hf, Stmt.suite_comment, mapSimpleAll]
  | simple span content => rw [mapSimple_simple, hf, Stmt.suite_simple, mapSimpleAll]

/-- Each place keeps its statement, changed. -/
theorem stmt?_mapSimpleAll {f : Stmt → Stmt} (hf : ∀ s which, (f s).suite which = s.suite which)
    (p : Place) (ss : List Stmt) :
    p.stmt? (mapSimpleAll f ss) = (p.stmt? ss).map (Stmt.mapSimple f) := by
  induction p generalizing ss with
  | here i => rw [stmt?, stmt?, mapSimpleAll_eq_map, List.getElem?_map]
  | inside i which rest ih =>
    rw [stmt?, stmt?, mapSimpleAll_eq_map, List.getElem?_map]
    cases ss[i]? with
    | none => rfl
    | some s =>
      rw [Option.map_some, Option.bind_some, Option.bind_some, suite_mapSimple hf, ih]

/-! ## Changing one statement -/

theorem stmt?_modify_self (f : Stmt → Stmt) (p : Place) (ss : List Stmt) :
    p.stmt? (p.modify f ss) = (p.stmt? ss).map f := by
  induction p generalizing ss with
  | here i => rw [stmt?, stmt?, modify, List.getElem?_modify_eq, Option.map_eq_map]
  | inside i which rest ih =>
    rw [stmt?, stmt?, modify, List.getElem?_modify_eq]
    cases ss[i]? with
    | none => rfl
    | some s =>
      show rest.stmt? ((s.mapSuite which (rest.modify f)).suite which) = _
      rw [Stmt.suite_mapSuite_self (modify_nil f rest), ih]
      rfl

/-- A change at one place that keeps suites as they are leaves at every other place what it was. -/
theorem shell_stmt?_modify {f : Stmt → Stmt} (hf : ∀ s which, (f s).suite which = s.suite which)
    {p q : Place} (hne : q ≠ p) (ss : List Stmt) :
    (q.stmt? (p.modify f ss)).map Stmt.shell = (q.stmt? ss).map Stmt.shell := by
  -- along both places at once, up to where they part: at an index, at a suite or where one of them ends
  induction p generalizing q ss with
  | here i =>
    cases q with
    | here j =>
      have hij : i ≠ j := fun h => hne (h ▸ rfl)
      rw [stmt?, stmt?, modify, List.getElem?_modify_ne _ _ hij]
    | inside j other q =>
      rw [stmt?, stmt?, modify, List.getElem?_modify]
      cases ss[j]? with
      | none => rfl
      | some s => by_cases hij : i = j <;> simp [hij, hf]
  | inside i which p ih =>
    cases q with
    | here j =>
      rw [stmt?, stmt?, modify, List.getElem?_modify]
      cases ss[j]? with
      | none => rfl
      | some s => by_cases hij : i = j <;> simp [hij]
    | inside j other q =>
      rw [stmt?, stmt?, modify]
      by_cases hij : i = j
      · subst hij
        rw [List.getElem?_modify_eq]
        cases ss[i]? with
        | none => rfl
        | some s =>
          show (q.stmt? ((s.mapSuite which (p.modify f)).suite other)).map _ = (q.stmt? (s.suite other)).map _
          -- the same suite of the same block: the places part further inside
          by_cases hwhich : other = which
          · subst hwhich
            rw [Stmt.suite_mapSuite_self (modify_nil f p)]
            exact ih (fun h => hne (h ▸ rfl)) (s.suite other)
          · rw [Stmt.suite_mapSuite_of_ne hwhich]
      · rw [List.getElem?_modify_ne _ _ hij]

end Place

end Crosswalk

import Crosswalk.Declaration
import Crosswalk.Syntax.Walk
import Mathlib.Data.List.Perm.Basic

/-!
# Walking through a tree

`flattenAll` lists the statements of a tree in the order of the source. A walk level by level meets the same
statements, each of them once: `Tree.perm_walk`.
-/

namespace Crosswalk

mutual

/-- A statement and those in it, in the order of the source. -/
def Stmt.flatten : Stmt → List Stmt
  | .block span head body handlers orelse final =>
    .block span head body handlers orelse final ::
      (flattenAll body ++ flattenAll handlers ++ flattenAll orelse ++ flattenAll final)
  | s => [s]

/-- Some statements and those in them, in the order of the source. -/
def flattenAll : List Stmt → List Stmt
  | [] => []
  | s :: rest => s.flatten ++ flattenAll rest

end

/-- The declarations of a tree, in the order of the source. -/
def Tree.declarations (name : String) (t : Tree) : List Stmt :=
  (flattenAll t).filter (·.isDeclaration name)

theorem flattenAll_eq_flatMap (ss : List Stmt) : flattenAll ss = ss.flatMap Stmt.flatten := by
  induction ss with
  | nil => rw [flattenAll, List.flatMap_nil]
  | cons s rest ih => rw [flattenAll, ih, List.flatMap_cons]

theorem flattenAll_append (ss ss' : List Stmt) : flattenAll (ss ++ ss') = flattenAll ss ++ flattenAll ss' := by
  rw [flattenAll_eq_flatMap, flattenAll_eq_flatMap, flattenAll_eq_flatMap, List.flatMap_append]

/-- A statement comes before those in it. -/
theorem Stmt.flatten_eq_cons (s : Stmt) : s.flatten = s :: flattenAll s.children := by
  cases s with
  | comment => simp [Stmt.flatten, Stmt.children, flattenAll]
  | simple => simp [Stmt.flatten, Stmt.children, flattenAll]
  | block => simp [Stmt.flatten, Stmt.children, flattenAll_eq_flatMap]

theorem mem_flattenAll_of_mem {s : Stmt} {ss : List Stmt} (h : s ∈ ss) : s ∈ flattenAll ss := by
  rw [flattenAll_eq_flatMap, List.mem_flatMap]
  exact ⟨s, h, by rw [s.flatten_eq_cons]; exact List.mem_cons_self⟩

/-- The tree has no comments. -/
def Tree.IsBare (t : Tree) : Prop := ∀ s ∈ flattenAll t, s.isComment = false

/-- All statements are those of the outermost level and those below it. -/
theorem perm_flattenAll (ss : List Stmt) : (flattenAll ss).Perm (ss ++ flattenAll (ss.flatMap Stmt.children)) := by
  have hflatten : flattenAll ss = ss.flatMap fun s => [s] ++ flattenAll s.children := by
    rw [flattenAll_eq_flatMap]
    exact congrArg ss.flatMap (funext Stmt.flatten_eq_cons)
  have hbelow : flattenAll (ss.flatMap Stmt.children) = ss.flatMap fun s => flattenAll s.children := by
    simp only [flattenAll_eq_flatMap, List.flatMap_assoc]
  rw [hflatten, hbelow]
  refine (List.flatMap_append_perm ss (fun s => [s]) fun s => flattenAll s.children).symm.trans ?_
  rw [List.flatMap_singleton']

theorem heightOf_append (ss ss' : List Stmt) : heightOf (ss ++ ss') = max (heightOf ss) (heightOf ss') := by
  induction ss with
  | nil => simp [heightOf]
  | cons s rest ih => rw [List.cons_append, heightOf, ih, heightOf, Nat.max_assoc]

theorem Stmt.heightOf_children_lt (s : Stmt) : heightOf s.children < s.height := by
  cases s with
  | comment => simp [Stmt.children, heightOf, Stmt.height]
  | simple => simp [Stmt.children, heightOf, Stmt.height]
  | block =>
    simp only [Stmt.children, heightOf_append, Stmt.height]
    omega

/-- Below the outermost level there is one level less. -/
theorem heightOf_flatMap_children {ss : List Stmt} {n : Nat} (h : heightOf ss ≤ n + 1) :
    heightOf (ss.flatMap Stmt.children) ≤ n := by
  induction ss with
  | nil => simp [heightOf]
  | cons s rest ih =>
    rw [heightOf] at h
    rw [List.flatMap_cons, heightOf_append]
    have := s.heightOf_children_lt
    have := ih (by omega)
    omega

/-- As many levels as there are hold all statements. -/
theorem perm_levels {n : Nat} {ss : List Stmt} (h : heightOf ss ≤ n) :
    (Tree.levels n ss).Perm (flattenAll ss) := by
  induction n generalizing ss with
  | zero =>
    cases ss with
    | nil => rfl
    | cons s rest =>
      have := s.heightOf_children_lt
      rw [heightOf] at h
      omega
  | succ n ih =>
    rw [Tree.levels]
    exact ((ih (heightOf_flatMap_children h)).append_left ss).trans (perm_flattenAll ss).symm

/-- A walk meets each statement of the tree once. -/
theorem Tree.perm_walk (t : Tree) : t.walk.Perm (flattenAll t) := perm_levels (Nat.le_refl _)

end Crosswalk

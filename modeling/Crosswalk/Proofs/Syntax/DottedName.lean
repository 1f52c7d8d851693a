import Crosswalk.Syntax.DottedName
import Mathlib.Data.List.Basic
import Mathlib.Tactic.Common

/-!
# References and their texts

An expression refers to something by name if it is a name, or an attribute of an expression that does:
`Expr.IsReference`. These are the expressions that have a dotted name, and the text of the dotted name is the text of
the expression, `print_eq_ok_of_dottedName?`. As long as no name in them holds a dot,
references with the same text are the same: `DottedName.IsDotless.eq_of_text_eq`.
-/

namespace Crosswalk

/-- A name, or an attribute of such an expression. -/
inductive Expr.IsReference : Expr → Prop
  | name (id : String) : IsReference (.name id)
  | dot {value : Expr} (attr : String) (hvalue : IsReference value) : IsReference (.attribute value attr)

theorem Expr.exists_dottedName?_iff {e : Expr} : (∃ n, e.dottedName? = some n) ↔ e.IsReference := by
  constructor
  · rintro ⟨n, hn⟩
    fun_induction dottedName? e generalizing n with
    | case1 id => exact .name id
    | case2 value attr ih =>
      obtain ⟨m, hm, -⟩ := Option.map_eq_some_iff.1 hn
      exact .dot attr (ih m hm)
    | case3 => cases hn
  · intro h
    induction h with
    | name id => exact ⟨_, rfl⟩
    | dot attr hvalue ih =>
      obtain ⟨n, hn⟩ := ih
      exact ⟨n.push attr, by rw [dottedName?, hn]; rfl⟩

theorem Expr.dottedName?_eq_some_iff {e : Expr} {n : DottedName} : e.dottedName? = some n ↔ e = n.toExpr :=
  ⟨fun h => (toExpr_of_dottedName? h).symm, fun h => h ▸ dottedName?_toExpr n⟩

/-- The references are the expressions of dotted names. -/
theorem Expr.isReference_iff {e : Expr} : e.IsReference ↔ ∃ n : DottedName, e = n.toExpr := by
  simp only [← exists_dottedName?_iff, dottedName?_eq_some_iff]

theorem DottedName.toExpr_injective : Function.Injective toExpr := fun n m h =>
  Option.some.inj (by rw [← Expr.dottedName?_toExpr, h, Expr.dottedName?_toExpr])

/-! ## The text of a reference -/

theorem joinWith_concat (separator s : String) (parts : List String) (t : String) :
    joinWith separator (s :: parts ++ [t]) = joinWith separator (s :: parts) ++ separator ++ t := by
  induction parts generalizing s with
  | nil => rfl
  | cons u parts ih =>
    have hrest := ih u
    rw [List.cons_append] at hrest
    rw [List.cons_append, List.cons_append, joinWith, hrest, joinWith]
    simp only [String.append_assoc]

namespace DottedName

theorem text_push (n : DottedName) (attr : String) : (n.push attr).text = n.text ++ "." ++ attr :=
  joinWith_concat "." n.root n.attributes attr

theorem fault?_toExpr (n : DottedName) : n.toExpr.fault? = none := by
  have hfoldl (attributes : List String) (e : Expr) : (attributes.foldl .attribute e).fault? = e.fault? := by
    induction attributes generalizing e with
    | nil => rfl
    | cons a attributes ih => rw [List.foldl_cons, ih, Expr.fault?]
  rw [toExpr, hfoldl, Expr.fault?]

end DottedName

/-- In any place a reference is written as its dotted name. -/
theorem Expr.text_of_dottedName? {e : Expr} {n : DottedName} (h : e.dottedName? = some n) (plain : Bool)
    (place : Level) : e.text plain place = n.text := by
  fun_induction dottedName? e generalizing n place with
  | case1 id =>
    cases h
    rw [text]
    rfl
  | case2 value attr ih =>
    obtain ⟨m, hm, rfl⟩ := Option.map_eq_some_iff.1 h
    -- only numbers and truth values set their attributes off by a blank
    have hwhole : value.isWhole = false := by
      cases value with
      | constant c => cases hm
      | _ => rfl
    rw [text, ih hm, hwhole, DottedName.text_push]
    rfl
  | case3 => cases h

/-- A reference has a text, which is its dotted name. -/
theorem Expr.print_eq_ok_of_dottedName? {e : Expr} {n : DottedName} (h : e.dottedName? = some n) :
    e.print = .ok n.text := by
  have hfault : e.fault? = none := dottedName?_eq_some_iff.1 h ▸ n.fault?_toExpr
  rw [print, hfault, printed, text_of_dottedName? h]

/-! ## References with the same text -/

/-- No name in it holds a dot. -/
def DottedName.IsDotless (n : DottedName) : Prop := ∀ part ∈ n.root :: n.attributes, '.' ∉ part.toList

theorem DottedName.IsDotless.push {n : DottedName} {attr : String} (h : n.IsDotless) (hattr : '.' ∉ attr.toList) :
    (n.push attr).IsDotless := by
  show ∀ part ∈ (n.root :: n.attributes) ++ [attr], '.' ∉ part.toList
  exact List.forall_mem_append.2 ⟨h, List.forall_mem_singleton.2 hattr⟩

/-- Two texts with a dot in them are equal only if they are up to the first dot. -/
theorem append_dot_inj {as bs as' bs' : List Char} (has : '.' ∉ as) (hbs : '.' ∉ bs)
    (h : as ++ '.' :: as' = bs ++ '.' :: bs') : as = bs ∧ as' = bs' := by
  induction as generalizing bs with
  | nil =>
    cases bs with
    | nil => exact ⟨rfl, (List.cons.inj h).2⟩
    | cons b bs => exact absurd (List.cons.inj h).1 (List.ne_of_not_mem_cons hbs)
  | cons a as ih =>
    cases bs with
    | nil => exact absurd (List.cons.inj h).1.symm (List.ne_of_not_mem_cons has)
    | cons b bs =>
      obtain ⟨rfl, hrest⟩ := List.cons.inj h
      obtain ⟨rfl, htail⟩ := ih (List.not_mem_of_not_mem_cons has) (List.not_mem_of_not_mem_cons hbs) hrest
      exact ⟨rfl, htail⟩

/-- What is joined by dots is cut up at them again. -/
theorem joinWith_dot_inj {s t : String} {ss ts : List String} (hs : ∀ part ∈ s :: ss, '.' ∉ part.toList)
    (ht : ∀ part ∈ t :: ts, '.' ∉ part.toList) (h : joinWith "." (s :: ss) = joinWith "." (t :: ts)) :
    s :: ss = t :: ts := by
  have hdot (u v : String) (vs : List String) :
      (joinWith "." (u :: v :: vs)).toList = u.toList ++ '.' :: (joinWith "." (v :: vs)).toList := by
    rw [joinWith, String.toList_append, String.toList_append, List.append_assoc]
    rfl
  have hmem (u v : String) (vs : List String) : '.' ∈ (joinWith "." (u :: v :: vs)).toList := by
    rw [hdot]
    exact List.mem_append_right _ List.mem_cons_self
  -- the first part ends at the first dot on either side
  induction ss generalizing s t ts with
  | nil =>
    cases ts with
    | nil => exact congrArg (fun u => [u]) h
    | cons v vs =>
      have hs' : '.' ∈ (joinWith "." [s]).toList := h ▸ hmem t v vs
      exact absurd hs' (hs s List.mem_cons_self)
  | cons u us ih =>
    cases ts with
    | nil =>
      have ht' : '.' ∈ (joinWith "." [t]).toList := h ▸ hmem s u us
      exact absurd ht' (ht t List.mem_cons_self)
    | cons v vs =>
      rw [List.forall_mem_cons] at hs ht
      have hlist := congrArg String.toList h
      rw [hdot, hdot] at hlist
      obtain ⟨hfirst, hrest⟩ := append_dot_inj hs.1 ht.1 hlist
      rw [String.toList_inj.1 hfirst, ih hs.2 ht.2 (String.toList_inj.1 hrest)]

/-- Dotted names without a dot in their parts are told apart by their texts. -/
theorem DottedName.IsDotless.eq_of_text_eq {n m : DottedName} (hn : n.IsDotless) (hm : m.IsDotless)
    (h : n.text = m.text) : n = m := by
  obtain ⟨hroot, hattributes⟩ := List.cons.inj (joinWith_dot_inj hn hm h)
  cases n
  cases m
  simp_all

end Crosswalk

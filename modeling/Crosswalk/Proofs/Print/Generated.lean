import Crosswalk.Proofs.Grammar.Generated
import Mathlib.Data.List.Forall2

/-!
# The text of generated expressions

The text of a generated expression is a text of the grammar of pieces, with the tokens of the expression:
`Expr.Generated.spelled`. No part of it is put into parentheses.
-/

namespace Crosswalk

open Token (Spelled listed)

theorem Token.spelled_joinWith {n : Nat} {texts : List String} {items : List (List TokenKind)} (hne : texts ≠ [])
    (h : List.Forall₂ (fun s ks => Spelled n s.toList ks) texts items) :
    Spelled n (joinWith ", " texts).toList (listed items) := by
  induction h with
  | nil => exact absurd rfl hne
  | @cons s ks texts items hs h ih =>
    cases h with
    | nil => simpa [joinWith, listed] using hs
    | @cons s' ks' texts items hs' h =>
      have hrest := ih (List.cons_ne_nil _ _)
      rw [joinWith, String.toList_append, String.toList_append, List.append_assoc]
      exact .separated .comma hs hrest

namespace Expr

variable {n m : Nat} {e : Expr}

theorem spelled_toExpr {d : DottedName} (hd : d.IsPlain) (place : Level) :
    Spelled n (d.toExpr.text false place).toList d.toExpr.kinds := by
  have hfoldl (attributes : List String) (hplain : ∀ a ∈ attributes, IsPlainName a) (e : Expr)
      (hwhole : e.isWhole = false) (h : ∀ place, Spelled n (e.text false place).toList e.kinds) :
      Spelled n ((attributes.foldl .attribute e).text false place).toList (attributes.foldl .attribute e).kinds := by
    -- the expression grows at its end, so that what holds of the front is carried along
    induction attributes generalizing e with
    | nil => exact h place
    | cons a attributes ih =>
      rw [List.forall_mem_cons] at hplain
      refine ih hplain.2 (.attribute e a) rfl fun place => ?_
      have ha : Spelled n a.toList [.word a] := .word hplain.1.isWord
      rw [Expr.text, hwhole, Expr.kinds, String.toList_append, String.toList_append, List.append_assoc]
      exact .separated .dot (h _) ha
  obtain ⟨hroot, hattributes⟩ := List.forall_mem_cons.1 hd
  refine hfoldl d.attributes hattributes (.name d.root) rfl fun place => ?_
  rw [Expr.text, Expr.kinds]
  exact .word hroot.isWord

theorem spelled_str (t : Text) (place : Level) : Spelled n ((Expr.str t).text false place).toList (Expr.str t).kinds := by
  rw [Expr.str, Expr.text, Expr.kinds]
  exact .quoted t

theorem text_function {param : String} {body : Expr} {place : Level} (hplace : place ≤ Level.test) :
    (Expr.function param body).text false place =
      "lambda" ++ (" " ++ (param ++ (": " ++ body.text false Level.test))) := by
  have hparams : paramsText (paramTexts false [.mk .positional param none none]) = param := by
    simp [paramsText, paramTexts, optionText, joinWith]
  rw [Expr.function, Expr.text, parenthesized, if_neg (Nat.not_lt.2 hplace), hparams]
  simp [String.append_assoc]

/-- The texts of arguments and the tokens of each. -/
theorem forall₂_textEach {es : List Expr} (h : ∀ e ∈ es, Spelled n (e.text false Level.test).toList e.kinds) :
    List.Forall₂ (fun s ks => Spelled n s.toList ks) (textEach false Level.test es) (kindsEach es) := by
  induction es with
  | nil =>
    rw [textEach, kindsEach]
    exact .nil
  | cons e es ih =>
    rw [List.forall_mem_cons] at h
    rw [textEach, kindsEach]
    exact .cons h.1 (ih h.2)

theorem forall₂_keywordsText {keywords : List Keyword} (hplain : ∀ kw ∈ keywords, kw.IsPlain)
    (h : ∀ kw ∈ keywords, Spelled n (kw.value.text false Level.test).toList kw.value.kinds) :
    List.Forall₂ (fun s ks => Spelled n s.toList ks) (keywordsText false keywords) (keywordsKinds keywords) := by
  induction keywords with
  | nil =>
    rw [keywordsText, keywordsKinds]
    exact .nil
  | cons kw keywords ih =>
    rw [List.forall_mem_cons] at hplain h
    rw [keywordsKinds]
    cases kw with
    | named name value =>
      have hname : Spelled n name.toList [.word name] := .word hplain.1.isWord
      rw [keywordsText, Keyword.kinds]
      refine .cons ?_ (ih hplain.2 h.2)
      rw [String.toList_append, String.toList_append, List.append_assoc]
      exact .separated .equals hname h.1
    | spread value =>
      rw [keywordsText, Keyword.kinds]
      refine .cons ?_ (ih hplain.2 h.2)
      rw [String.toList_append]
      exact .starred h.1

theorem forall₂_entriesText {entries : List Entry} (hkeyed : ∀ e ∈ entries, e.IsKeyed)
    (h : ∀ e ∈ entries, Spelled n (e.value.text false Level.test).toList e.value.kinds) :
    List.Forall₂ (fun s ks => Spelled n s.toList ks) (entriesText false entries) (entriesKinds entries) := by
  induction entries with
  | nil =>
    rw [entriesText, entriesKinds]
    exact .nil
  | cons e entries ih =>
    rw [List.forall_mem_cons] at hkeyed h
    obtain ⟨t, ht⟩ := hkeyed.1
    rw [entriesKinds, ht, entriesText, Entry.kinds]
    refine .cons ?_ (ih hkeyed.2 h.2)
    rw [String.toList_append, String.toList_append, List.append_assoc]
    exact .separated .colon (spelled_str t _) h.1

theorem texts_ne_nil {arguments : List Expr} {keywords : List Keyword} (h : arguments ≠ [] ∨ keywords ≠ []) :
    textEach false Level.test arguments ++ keywordsText false keywords ≠ [] := by
  rcases arguments with - | ⟨e, arguments⟩
  · rcases keywords with - | ⟨kw, keywords⟩
    · simp at h
    · cases kw <;> simp [keywordsText]
  · simp [textEach]

theorem entriesText_ne_nil {entries : List Entry} (h : entries ≠ []) : entriesText false entries ≠ [] := by
  rcases entries with - | ⟨e, entries⟩
  · exact absurd rfl h
  · cases e <;> simp [entriesText]

namespace Generated

/-- The text of a generated expression has its tokens. A place asks for no parentheses unless it is tighter than that
of an argument. -/
theorem spelled {place : Level} (h : e.Generated n) (hle : n ≤ m) (hplace : place ≤ Level.test) :
    Spelled m (e.text false place).toList e.kinds := by
  induction h generalizing m place with
  | name hd => exact spelled_toExpr hd place
  | str t => exact spelled_str t place
  | item hd t =>
    obtain ⟨m, rfl⟩ := Nat.exists_eq_add_of_le' (Nat.le_of_succ_le hle)
    rw [Expr.item, Expr.text, Expr.kinds, String.toList_append, String.toList_append, String.toList_append,
      List.append_assoc, List.append_assoc]
    exact .applied .square (spelled_toExpr hd _) (spelled_str t _)
  | call hd hne hplain _ _ ih ih' =>
    obtain ⟨m, rfl⟩ := Nat.exists_eq_add_of_le' (Nat.le_trans (Nat.succ_pos _) hle)
    have hle := Nat.le_of_succ_le_succ hle
    have hlisted := Token.spelled_joinWith (texts_ne_nil hne) (List.rel_append
      (forall₂_textEach fun e he => ih e he hle (Nat.le_refl _))
      (forall₂_keywordsText hplain fun kw hkw => ih' kw hkw hle (Nat.le_refl _)))
    rw [Expr.text, Expr.kinds]
    simp only [String.toList_append, List.append_assoc]
    exact .applied .round (spelled_toExpr hd _) hlisted
  | dict hne hkeyed _ ih =>
    obtain ⟨m, rfl⟩ := Nat.exists_eq_add_of_le' (Nat.le_trans (Nat.succ_pos _) hle)
    have hle := Nat.le_of_succ_le_succ hle
    have hlisted := Token.spelled_joinWith (entriesText_ne_nil hne)
      (forall₂_entriesText hkeyed fun e he => ih e he hle (Nat.le_refl _))
    rw [Expr.text, Expr.kinds]
    simp only [String.toList_append, List.append_assoc]
    exact .bracketed .curly hlisted
  | @function n param body hparam h ih =>
    have hlambda : Spelled m "lambda".toList [.word "lambda"] := .word (w := "lambda") rfl
    have hname : Spelled m param.toList [.word param] := .word hparam.isWord
    have hbody := ih (Nat.le_of_succ_le hle) (Nat.le_refl Level.test)
    rw [text_function hplace, Expr.function, Expr.kinds]
    simp only [String.toList_append]
    exact .separated .blank hlambda (.separated .colon hname hbody)

end Generated

end Expr

end Crosswalk

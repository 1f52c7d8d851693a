import Crosswalk.Proofs.Token.Spelled
import Crosswalk.Syntax.Build
import Crosswalk.Syntax.DottedName
import Crosswalk.Text.Normalize

/-!
# Generated expressions

Generated code has few forms of expressions, `Expr.Generated`: dotted names, strings, entries of a record, calls,
dicts and functions of one parameter. `Expr.kinds` are the kinds of the tokens of such an expression.
-/

namespace Crosswalk

/-- A name that is written as it is and read as it is written: it is not reserved, and its normal form is itself. -/
structure IsPlainName (n : String) : Prop where
  bare : (Text.ofString n).isBareName = true
  normal : Text.normalize n = n

namespace IsPlainName

variable {n : String} (h : IsPlainName n)
include h

theorem isWord : Token.IsWord n := by
  have := h.bare
  rw [Text.isBareName, Bool.and_eq_true] at this
  exact this.1

theorem not_mem_reservedWords : n ∉ Text.reservedWords := by
  have := h.bare
  rw [Text.isBareName, Bool.and_eq_true, Bool.not_eq_true', Bool.eq_false_iff, ne_eq, List.contains_iff_mem] at this
  exact fun hmem => this.2 (List.mem_map_of_mem hmem)

end IsPlainName

/-- A dotted name all names of which are plain. -/
def DottedName.IsPlain (d : DottedName) : Prop := ∀ n ∈ d.root :: d.attributes, IsPlainName n

/-! ## Tokens -/

/-- The tokens of a list of items with the tokens given. -/
def Token.listed : List (List TokenKind) → List TokenKind
  | [] => []
  | ks :: rest => ks ++ rest.flatMap (.op "," :: ·)

open Token (Bracket listed)

mutual

/-- The tokens of an expression of a form that generated code has. -/
def Expr.kinds : Expr → List TokenKind
  | .name id => [.word id]
  | .constant (.str t _) => [Token.ofQuoted t]
  | .attribute value attr => value.kinds ++ [.op ".", .word attr]
  | .subscript value index => value.kinds ++ Bracket.square.kinds index.kinds
  | .call function arguments keywords =>
    function.kinds ++ Bracket.round.kinds (listed (kindsEach arguments ++ keywordsKinds keywords))
  | .dict entries => Bracket.curly.kinds (listed (entriesKinds entries))
  | .lambda [.mk _ param _ _] body => .word "lambda" :: .word param :: .op ":" :: body.kinds
  | _ => []

/-- The tokens of each of some expressions. -/
def kindsEach : List Expr → List (List TokenKind)
  | [] => []
  | e :: es => e.kinds :: kindsEach es

/-- The tokens of an argument given by name. -/
def Keyword.kinds : Keyword → List TokenKind
  | .named name value => .word name :: .op "=" :: value.kinds
  | .spread value => .op "**" :: value.kinds

/-- The tokens of each of some arguments given by name. -/
def keywordsKinds : List Keyword → List (List TokenKind)
  | [] => []
  | k :: rest => k.kinds :: keywordsKinds rest

/-- The tokens of an item of a dict. -/
def Entry.kinds : Entry → List TokenKind
  | .pair key value => key.kinds ++ .op ":" :: value.kinds
  | .spread value => .op "**" :: value.kinds

/-- The tokens of each of some items of a dict. -/
def entriesKinds : List Entry → List (List TokenKind)
  | [] => []
  | e :: rest => e.kinds :: entriesKinds rest

end

theorem kindsEach_eq_map (es : List Expr) : kindsEach es = es.map Expr.kinds := by
  induction es with
  | nil => rw [kindsEach, List.map_nil]
  | cons e es ih => rw [kindsEach, ih, List.map_cons]

theorem keywordsKinds_eq_map (ks : List Keyword) : keywordsKinds ks = ks.map Keyword.kinds := by
  induction ks with
  | nil => rw [keywordsKinds, List.map_nil]
  | cons k ks ih => rw [keywordsKinds, ih, List.map_cons]

theorem entriesKinds_eq_map (es : List Entry) : entriesKinds es = es.map Entry.kinds := by
  induction es with
  | nil => rw [entriesKinds, List.map_nil]
  | cons e es ih => rw [entriesKinds, ih, List.map_cons]

/-- The tokens of a dotted name. -/
theorem kinds_toExpr (d : DottedName) :
    d.toExpr.kinds = .word d.root :: d.attributes.flatMap fun a => [.op ".", .word a] := by
  have hfoldl (attributes : List String) (e : Expr) : (attributes.foldl .attribute e).kinds =
      e.kinds ++ attributes.flatMap fun a => [.op ".", .word a] := by
    induction attributes generalizing e with
    | nil => simp
    | cons a attributes ih => simp [ih, Expr.kinds]
  rw [DottedName.toExpr, hfoldl, Expr.kinds]
  rfl

theorem length_kinds_toExpr (d : DottedName) : d.toExpr.kinds.length = 2 * d.attributes.length + 1 := by
  rw [kinds_toExpr, List.length_cons, List.length_flatMap]
  simp [List.map_const', Nat.mul_comm]

namespace Token

variable {items : List (List TokenKind)}

theorem length_le_of_mem_listed {ks : List TokenKind} (h : ks ∈ items) : ks.length ≤ (listed items).length := by
  cases items with
  | nil => cases h
  | cons first items =>
    rw [listed, List.length_append]
    rcases List.mem_cons.1 h with rfl | h
    · exact Nat.le_add_right _ _
    · have hsub : ks.Sublist (items.flatMap (.op "," :: ·)) := by
        refine .trans (List.sublist_cons_self (.op ",") ks) ?_
        rw [List.flatMap_def]
        exact List.sublist_flatten_of_mem (List.mem_map_of_mem (f := (TokenKind.op "," :: ·)) h)
      exact Nat.le_trans hsub.length_le (Nat.le_add_left _ _)

/-- A list has no fewer tokens than items. -/
theorem length_le_length_listed (h : ∀ ks ∈ items, ks ≠ []) : items.length ≤ (listed items).length := by
  cases items with
  | nil => exact Nat.le_refl _
  | cons first items =>
    have hfirst := List.length_pos_iff.2 (h first List.mem_cons_self)
    have hrest : items.length ≤ (items.flatMap (TokenKind.op "," :: ·)).length := by
      clear h
      induction items with
      | nil => exact Nat.le_refl _
      | cons ks items ih =>
        rw [List.flatMap_cons, List.length_append]
        simp only [List.length_cons]
        omega
    rw [listed, List.length_append, List.length_cons]
    omega

end Token

/-! ## Forms -/

/-- The value of an argument given by name. -/
def Keyword.value : Keyword → Expr
  | .named _ value => value
  | .spread value => value

/-- The name of the argument, if it has one, is plain. -/
def Keyword.IsPlain : Keyword → Prop
  | .named name _ => IsPlainName name
  | .spread _ => True

/-- The value of an item of a dict. -/
def Entry.value : Entry → Expr
  | .pair _ value => value
  | .spread value => value

/-- The item stands under a string. -/
def Entry.IsKeyed (e : Entry) : Prop := ∃ t, e = .pair (.str t) e.value

/-- The expressions of generated code; the number bounds how deep they are. -/
inductive Expr.Generated : Nat → Expr → Prop
  | name {n : Nat} {d : DottedName} (hd : d.IsPlain) : Generated (n + 1) d.toExpr
  | str {n : Nat} (t : Text) : Generated (n + 1) (.str t)
  | item {n : Nat} {d : DottedName} (hd : d.IsPlain) (t : Text) : Generated (n + 2) (.item d.toExpr t)
  | call {n : Nat} {d : DottedName} {arguments : List Expr} {keywords : List Keyword} (hd : d.IsPlain)
      (hne : arguments ≠ [] ∨ keywords ≠ []) (hplain : ∀ k ∈ keywords, k.IsPlain)
      (harguments : ∀ e ∈ arguments, Generated n e) (hkeywords : ∀ k ∈ keywords, Generated n k.value) :
      Generated (n + 1) (.call d.toExpr arguments keywords)
  | dict {n : Nat} {entries : List Entry} (hne : entries ≠ []) (hkeyed : ∀ e ∈ entries, e.IsKeyed)
      (hentries : ∀ e ∈ entries, Generated (n + 1) e.value) : Generated (n + 2) (.dict entries)
  | function {n : Nat} {param : String} {body : Expr} (hparam : IsPlainName param) (h : Generated n body) :
      Generated (n + 1) (.function param body)

end Crosswalk

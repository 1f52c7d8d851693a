import Crosswalk.Text.Normalize
import Crosswalk.Proofs.Text.Inline

/-!
# Names and dots

A name that is brought into its normal form holds no dot unless it held one before: `Text.dot_not_mem_normalize`. That
no character of a name falls apart into a dot, and no two of them are composed to one, is looked up in the tables.
-/

namespace Crosswalk.Text

namespace Normalize

/-- The number of the dot. All that the tables give lies above it. -/
def dot : Nat := '.'.toNat

/-! ## What the tables say -/

/-- All code points that a table of decompositions gives lie above the dot. -/
def fallsAbove (table : List ((Nat × Nat) × List Nat)) : Bool := table.all fun e => e.2.all (dot < ·)

/-- All code points that a table of compositions gives lie above the dot. -/
def composesAbove (table : List (List Nat × Nat)) : Bool := table.all fun e => dot < e.2

/-- The entries of a table can be computed from the list of its characters. -/
theorem readEntries_eq_split {β : Type} {f : List β → Bool} {g : List Char × List Char → β} {table : String}
    {cs : List Char} (h : table = String.ofList cs)
    (hf : f (((Ranges.split (fun c => c = ' ' || c = '\n') cs).map fun word =>
      let left := word.takeWhile (· ≠ ':')
      (left, word.drop (left.length + 1))).map g) = true) : f ((readEntries table).map g) = true := by
  rwa [readEntries, Ranges.words_eq_split h]

-- the lists of characters are long
set_option maxRecDepth 100000 in
theorem fallsAbove_decompositions : fallsAbove decompositions = true :=
  readEntries_eq_split (f := fallsAbove) (by with_reducible rfl) (by decide +kernel)

set_option maxRecDepth 100000 in
theorem composesAbove_compositions : composesAbove compositions = true :=
  readEntries_eq_split (f := composesAbove) (by with_reducible rfl) (by decide +kernel)

/-! ## The steps of normalisation -/

theorem ne_dot_of_mem_decompose {n m : Nat} (hn : n ≠ dot) (h : m ∈ decompose n) : m ≠ dot := by
  have hdot : dot = 46 := rfl
  unfold decompose at h
  split at h
  · exact List.mem_singleton.1 h ▸ hn
  · split at h
    · dsimp only at h
      split at h
      all_goals
        simp only [List.mem_append, List.mem_cons, List.not_mem_nil, or_false] at h
        omega
    · -- what the table gives lies above the dot
      have habove {e : (Nat × Nat) × List Nat}
          (he : decompositions.find? (fun e => e.1.1 ≤ n && n ≤ e.1.2) = some e) : ∀ k ∈ e.2, dot < k := by
        have hall := List.all_eq_true.1 fallsAbove_decompositions e (List.mem_of_find?_eq_some he)
        simpa using hall
      split at h
      · rename_i range target he
        have := habove he target List.mem_cons_self
        rw [List.mem_singleton] at h
        omega
      · rename_i he
        exact Nat.ne_of_gt (habove he m h)
      · exact List.mem_singleton.1 h ▸ hn

theorem mem_insertMark {mark p : Nat × Nat} {marks : List (Nat × Nat)} :
    p ∈ insertMark mark marks ↔ p = mark ∨ p ∈ marks := by
  induction marks with
  | nil => simp [insertMark]
  | cons last before ih =>
    rw [insertMark]
    split
    · rw [List.mem_cons, ih, List.mem_cons]
      tauto
    · rw [List.mem_cons]

/-- Putting marks into order adds no code point. -/
theorem mem_of_mem_reorder {ns : List Nat} {p : Nat × Nat} (h : p ∈ reorder ns) : p.1 ∈ ns := by
  have hfold (ns : List Nat) (done : List (Nat × Nat)) :
      p ∈ ns.foldl (fun done n => insertMark (n, combiningClass n) done) done → p.1 ∈ ns ∨ p ∈ done := by
    induction ns generalizing done with
    | nil => exact .inr
    | cons n ns ih =>
      intro hp
      rcases ih _ hp with hp | hp
      · exact .inl (List.mem_cons_of_mem n hp)
      · rcases mem_insertMark.1 hp with rfl | hp
        · exact .inl List.mem_cons_self
        · exact .inr hp
  rw [reorder, List.mem_reverse] at h
  exact (hfold ns [] h).resolve_right List.not_mem_nil

theorem ne_dot_of_composePair {a b c : Nat} (h : composePair a b = some c) : c ≠ dot := by
  have hdot : dot = 46 := rfl
  unfold composePair at h
  split at h
  · rw [Option.some.injEq] at h
    omega
  · split at h
    · rw [Option.some.injEq] at h
      omega
    · obtain ⟨e, he, rfl⟩ := Option.map_eq_some_iff.1 h
      have hall := List.all_eq_true.1 composesAbove_compositions e (List.mem_of_find?_eq_some he)
      exact Nat.ne_of_gt (of_decide_eq_true hall)

/-- One step of composing keeps what it has, adds the code point or puts in what it is composed to. -/
theorem Composing.ne_dot_step {s : Composing} {next : Nat × Nat} (hs : ∀ n ∈ s.flush, n ≠ dot)
    (hnext : next.1 ≠ dot) : ∀ n ∈ (s.step next).flush, n ≠ dot := by
  simp only [flush, List.mem_append, Option.mem_toList] at hs
  intro n hn
  unfold step at hn
  dsimp only at hn
  split at hn
  · rename_i a ha
    split at hn
    · rename_i composite hcomposite
      have hpair {blocked : Bool} (h : (if blocked then none else composePair a next.1) = some composite) :
          composePair a next.1 = some composite := by cases blocked <;> simp_all
      simp only [flush, List.mem_append, Option.mem_toList, Option.some.injEq] at hn
      rcases hn with (hn | rfl) | hn
      · exact hs n (.inl (.inl hn))
      · exact ne_dot_of_composePair (hpair hcomposite)
      · exact hs n (.inr hn)
    · split at hn <;> simp only [flush, List.mem_append, List.mem_map, List.mem_cons, Option.mem_toList,
        Option.some.injEq] at hn hs <;> grind
  · split at hn <;> simp only [flush, List.mem_append, List.mem_map, List.mem_cons, Option.mem_toList,
      Option.some.injEq] at hn hs <;> grind

theorem ne_dot_of_mem_normalForm {ns : List Nat} (hns : ∀ n ∈ ns, n ≠ dot) : ∀ n ∈ normalForm ns, n ≠ dot := by
  have hordered : ∀ p ∈ reorder (ns.flatMap decompose), p.1 ≠ dot := by
    intro p hp
    obtain ⟨n, hn, hm⟩ := List.mem_flatMap.1 (mem_of_mem_reorder hp)
    exact ne_dot_of_mem_decompose (hns n hn) hm
  have hfold (ps : List (Nat × Nat)) (hps : ∀ p ∈ ps, p.1 ≠ dot) (s : Composing) (hs : ∀ n ∈ s.flush, n ≠ dot) :
      ∀ n ∈ (ps.foldl Composing.step s).flush, n ≠ dot := by
    induction ps generalizing s with
    | nil => exact hs
    | cons p ps ih =>
      rw [List.forall_mem_cons] at hps
      exact ih hps.2 _ (Composing.ne_dot_step hs hps.1)
  intro n hn
  rw [normalForm, List.mem_reverse] at hn
  exact hfold _ hordered _ (by simp [Composing.flush]) n hn

end Normalize

/-- To normalise a name puts no dot into it. -/
theorem dot_not_mem_normalize {name : String} (h : '.' ∉ name.toList) : '.' ∉ (normalize name).toList := by
  unfold normalize
  split
  · exact h
  · rw [String.toList_ofList, List.mem_map]
    rintro ⟨n, hn, hchar⟩
    have hne : ∀ m ∈ name.toList.map Char.toNat, m ≠ Normalize.dot := by
      rintro m hm rfl
      obtain ⟨c, hc, hcode⟩ := List.mem_map.1 hm
      exact h (Char.toNat_inj.1 hcode ▸ hc)
    -- a number that is no character becomes the null character
    by_cases hvalid : n.isValidChar
    · rw [Char.ofNat, dif_pos hvalid] at hchar
      exact Normalize.ne_dot_of_mem_normalForm hne n hn (congrArg Char.toNat hchar)
    · rw [Char.ofNat, dif_neg hvalid] at hchar
      exact absurd hchar (by decide)

end Crosswalk.Text

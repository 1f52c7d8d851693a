import Crosswalk.Grammar.Reader
import Mathlib.Tactic.Common

/-!
# What a reader reads

`Reader.Reads` is what a reader does as a relation, taken apart along its steps: what is read at a cursor, and
the cursor that is left.
-/

namespace Crosswalk.Reader

variable {α β : Type} {r r' : Reader α} {f : α → Reader β} {c c' c'' : Cursor} {a b : α}

/-- At the first cursor the value is read, and the second cursor is left. -/
def Reads (r : Reader α) (c : Cursor) (a : α) (c' : Cursor) : Prop := ∃ h, r.run c = .ok ⟨(a, c'), h⟩

/-- What is left are the last tokens. -/
theorem Reads.suffix (h : r.Reads c a c') : c'.tokens <:+ c.tokens := h.1

@[simp] theorem reads_pure_iff : (pure b : Reader α).Reads c a c' ↔ a = b ∧ c' = c := by
  constructor
  · rintro ⟨_, h⟩
    cases h
    exact ⟨rfl, rfl⟩
  · rintro ⟨rfl, rfl⟩
    exact ⟨List.suffix_rfl, rfl⟩

@[simp] theorem reads_bind_iff {b : β} :
    (r >>= f).Reads c b c'' ↔ ∃ a c', r.Reads c a c' ∧ (f a).Reads c' b c'' := by
  constructor
  · rintro ⟨h, hrun⟩
    change (Reader.bind r f).run c = _ at hrun
    unfold Reader.bind at hrun
    dsimp only at hrun
    split at hrun
    · cases hrun
    · rename_i a c' hr hrun'
      split at hrun
      · cases hrun
      · rename_i p hp hf
        cases hrun
        exact ⟨a, c', ⟨hr, hrun'⟩, ⟨hp, hf⟩⟩
  · rintro ⟨a, c', ⟨hr, hrun⟩, ⟨hf, hrun'⟩⟩
    refine ⟨hf.trans hr, ?_⟩
    change (Reader.bind r f).run c = _
    simp only [Reader.bind, hrun, hrun']

@[simp] theorem not_reads_fail {m : Mismatch} : ¬ (fail m : Reader α).Reads c a c' := by
  rintro ⟨_, h⟩
  cases h

@[simp] theorem not_reads_reject : ¬ (reject : Reader α).Reads c a c' := not_reads_fail

@[simp] theorem reads_cursor_iff {d : Cursor} : cursor.Reads c d c' ↔ d = c ∧ c' = c := by
  constructor
  · rintro ⟨_, h⟩
    cases h
    exact ⟨rfl, rfl⟩
  · rintro ⟨rfl, rfl⟩
    exact ⟨List.suffix_rfl, rfl⟩

theorem Reads.orElse (h : (orElse r r').Reads c a c') : r.Reads c a c' ∨ r'.Reads c a c' := by
  obtain ⟨hc, h⟩ := h
  unfold Reader.orElse at h
  dsimp only at h
  split at h
  · split at h
    · cases h
    · exact .inr ⟨hc, h⟩
  · exact .inl ⟨hc, h⟩

/-! ## Tokens -/

theorem Reads.peek {t : Token} (h : peek.Reads c t c') : c' = c ∧ ∃ rest, c.tokens = t :: rest := by
  simp only [Reader.peek, reads_bind_iff, reads_cursor_iff] at h
  obtain ⟨d, c₁, ⟨rfl, rfl⟩, h⟩ := h
  split at h
  · exact absurd h not_reads_fail
  · rename_i t' rest hrest
    split at h
    · exact absurd h not_reads_fail
    · obtain ⟨rfl, rfl⟩ := reads_pure_iff.1 h
      exact ⟨rfl, rest, hrest⟩

theorem Reads.advance {u : Unit} (h : advance.Reads c u c') : c'.tokens = c.tokens.tail := by
  obtain ⟨hc, h⟩ := h
  unfold Reader.advance at h
  obtain ⟨tokens, last⟩ := c
  cases tokens <;> cases h <;> rfl

@[simp] theorem not_reads_unexpected : ¬ (unexpected : Reader α).Reads c a c' := by
  intro h
  simp only [unexpected, reads_bind_iff] at h
  obtain ⟨t, c₁, -, h⟩ := h
  split at h <;> exact not_reads_fail h

/-- A place that is asked for is that of the next token. -/
theorem Reads.here {p : Pos} (h : here.Reads c p c') : c' = c ∧ ∃ t rest, c.tokens = t :: rest ∧ t.start = p := by
  simp only [Reader.here, reads_bind_iff, reads_pure_iff] at h
  obtain ⟨t, c₁, hpeek, rfl, rfl⟩ := h
  obtain ⟨rfl, rest, hrest⟩ := hpeek.peek
  exact ⟨rfl, t, rest, hrest, rfl⟩

theorem Reads.lastEnd {p : Pos} (h : lastEnd.Reads c p c') : c' = c := by
  simp only [Reader.lastEnd, reads_bind_iff, reads_cursor_iff, reads_pure_iff] at h
  obtain ⟨d, c₁, ⟨rfl, rfl⟩, -, rfl⟩ := h
  rfl

theorem Reads.atOp {s : String} {found : Bool} (h : (atOp s).Reads c found c') :
    c' = c ∧ (found = true → ∃ t rest, c.tokens = t :: rest ∧ t.kind = .op s) := by
  simp only [Reader.atOp, reads_bind_iff, reads_pure_iff] at h
  obtain ⟨t, c₁, hpeek, rfl, rfl⟩ := h
  obtain ⟨rfl, rest, hrest⟩ := hpeek.peek
  refine ⟨rfl, fun ht => ⟨t, rest, hrest, ?_⟩⟩
  unfold isOp at ht
  split at ht
  · rename_i o ho
    rw [ho, eq_of_beq ht]
  · cases ht

/-- An operator that comes next is taken, and else no token is. -/
theorem Reads.acceptOp {s : String} {found : Bool} (h : (acceptOp s).Reads c found c') :
    if found then ∃ t, c.tokens = t :: c'.tokens ∧ t.kind = .op s else c' = c := by
  simp only [Reader.acceptOp, reads_bind_iff] at h
  obtain ⟨b, c₁, hat, h⟩ := h
  obtain ⟨rfl, hfound⟩ := hat.atOp
  split at h
  · rename_i hb
    simp only [reads_bind_iff, reads_pure_iff] at h
    obtain ⟨u, c₂, hadvance, rfl, rfl⟩ := h
    obtain ⟨t, rest, hrest, ht⟩ := hfound hb
    refine ⟨t, ?_, ht⟩
    rw [hadvance.advance, hrest, List.tail_cons]
  · obtain ⟨rfl, rfl⟩ := reads_pure_iff.1 h
    rfl

theorem Reads.expectOp {s : String} {u : Unit} (h : (expectOp s).Reads c u c') :
    ∃ t, c.tokens = t :: c'.tokens ∧ t.kind = .op s := by
  simp only [Reader.expectOp, reads_bind_iff] at h
  obtain ⟨b, c₁, hat, h⟩ := h
  obtain ⟨rfl, hfound⟩ := hat.atOp
  split at h
  · rename_i hb
    obtain ⟨t, rest, hrest, ht⟩ := hfound hb
    refine ⟨t, ?_, ht⟩
    rw [h.advance, hrest, List.tail_cons]
  · exact absurd h not_reads_unexpected

end Crosswalk.Reader

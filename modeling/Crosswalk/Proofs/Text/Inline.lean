import Crosswalk.Text.Identifier
import Crosswalk.Text.Lines
import Crosswalk.Text.Printable
import Mathlib.Tactic.Common

/-!
# Characters within a line

A character that prints and one that may stand in a name do not end a line: `isInline_of_isPrintable` and
`isInline_of_isNamePart`. Above ASCII three characters end lines, and it is looked up in the tables that they do not
print and stand in no name.
-/

namespace Crosswalk

/-- A character that may stand in the midst of a line: no control character of ASCII, and none that ends a line. -/
structure IsInline (c : Char) : Prop where
  low : 32 ≤ c.toNat
  unbroken : Text.Lines.isBreak c = false

namespace IsInline

variable {c : Char} (h : IsInline c)
include h

theorem ne_newline : c ≠ '\n' := by
  rintro rfl
  exact absurd h.low (by decide)

theorem ne_return : c ≠ '\r' := by
  rintro rfl
  exact absurd h.low (by decide)

theorem ne_null : c ≠ '\x00' := by
  rintro rfl
  exact absurd h.low (by decide)

end IsInline

theorem isInline_iff {c : Char} :
    IsInline c ↔ 32 ≤ c.toNat ∧ c.toNat ≠ 0x85 ∧ c.toNat ≠ 0x2028 ∧ c.toNat ≠ 0x2029 := by
  have hbreak : Text.Lines.isBreak c = false ↔ ¬ (10 ≤ c.toNat ∧ c.toNat ≤ 13) ∧ ¬ (28 ≤ c.toNat ∧ c.toNat ≤ 30) ∧
      c.toNat ≠ 0x85 ∧ c.toNat ≠ 0x2028 ∧ c.toNat ≠ 0x2029 := by
    simp [Text.Lines.isBreak, and_assoc]
  constructor
  · rintro ⟨hlow, hunbroken⟩
    exact ⟨hlow, (hbreak.1 hunbroken).2.2⟩
  · rintro ⟨hlow, hbreaks⟩
    exact ⟨hlow, hbreak.2 ⟨by omega, by omega, hbreaks⟩⟩

theorem isInline_of_ascii {c : Char} (hlow : 32 ≤ c.toNat) (hhigh : c.toNat < 0x80) : IsInline c :=
  isInline_iff.2 ⟨hlow, by omega, by omega, by omega⟩

/-! ## What the tables say -/

namespace Text.Ranges

/-- The table has all line breaks above ASCII. -/
def hasBreaks (ranges : Ranges) : Bool :=
  ranges.contains 0x85 && ranges.contains 0x2028 && ranges.contains 0x2029

/-- The table has none of the line breaks above ASCII. -/
def lacksBreaks (ranges : Ranges) : Bool :=
  !ranges.contains 0x85 && !ranges.contains 0x2028 && !ranges.contains 0x2029

/-- A table can be computed from the list of its characters. The list is found by unification, which has to see
that the table is a literal and must not take it apart. -/
theorem words_eq_split {table : String} {cs : List Char} (h : table = String.ofList cs) :
    words table = split (fun c => c = ' ' || c = '\n') cs := by
  rw [h, words, String.toList_ofList]

theorem read_eq_split {f : Ranges → Bool} {table : String} {cs : List Char} (h : table = String.ofList cs)
    (hf : f ((split (fun c => c = ' ' || c = '\n') cs).map readRange) = true) : f (read table) = true := by
  rwa [read, words_eq_split h]

-- the lists of characters are long
set_option maxRecDepth 100000 in
theorem hasBreaks_unprintable : hasBreaks CodePoint.unprintable = true :=
  read_eq_split (f := hasBreaks) (by with_reducible rfl) (by decide +kernel)

set_option maxRecDepth 100000 in
theorem lacksBreaks_nameStarts : lacksBreaks CodePoint.nameStarts = true :=
  read_eq_split (f := lacksBreaks) (by with_reducible rfl) (by decide +kernel)

set_option maxRecDepth 100000 in
theorem lacksBreaks_nameExtenders : lacksBreaks CodePoint.nameExtenders = true :=
  read_eq_split (f := lacksBreaks) (by with_reducible rfl) (by decide +kernel)

theorem ne_of_contains {ranges : Ranges} {n : Nat} (hranges : lacksBreaks ranges = true) (h : ranges.contains n) :
    n ≠ 0x85 ∧ n ≠ 0x2028 ∧ n ≠ 0x2029 := by
  simp only [lacksBreaks, Bool.and_eq_true, Bool.not_eq_true'] at hranges
  refine ⟨?_, ?_, ?_⟩ <;> rintro rfl <;> simp_all

end Text.Ranges

/-! ## Characters of texts -/

namespace CodePoint

theorem toNat_toChar {c : CodePoint} (h : c.isSurrogate = false) : c.toChar.toNat = c.val := by
  have hvalid : c.val.isValidChar := by
    simp only [isSurrogate, Bool.and_eq_false_iff, decide_eq_false_iff_not] at h
    have hlt := c.isLt
    rw [Nat.isValidChar]
    omega
  rw [toChar, toChar?, dif_pos hvalid]
  rfl

/-- What is no surrogate is the code point of its character. -/
theorem ofChar_toChar {c : CodePoint} (h : c.isSurrogate = false) : ofChar c.toChar = c :=
  Fin.ext (toNat_toChar h)

end CodePoint

theorem isInline_of_isPrintable {c : CodePoint} (h : c.isPrintable) : IsInline c.toChar := by
  rw [isInline_iff, CodePoint.toNat_toChar (CodePoint.isSurrogate_of_isPrintable h)]
  unfold CodePoint.isPrintable at h
  split at h
  · simp only [Bool.and_eq_true, decide_eq_true_eq] at h
    omega
  · have hbreaks := Text.Ranges.hasBreaks_unprintable
    simp only [Text.Ranges.hasBreaks, Bool.and_eq_true] at hbreaks
    have hnot : CodePoint.unprintable.contains c.val = false := by simp_all
    refine ⟨by omega, ?_, ?_, ?_⟩ <;> intro heq <;> rw [heq] at hnot <;> simp_all

theorem isInline_of_isNamePart {c : Char} (h : (CodePoint.ofChar c).isNamePart) : IsInline c := by
  have hval : (CodePoint.ofChar c).val = c.toNat := rfl
  rw [isInline_iff]
  unfold CodePoint.isNamePart at h
  rw [hval] at h
  split at h
  · simp only [CodePoint.isAsciiNameStart, CodePoint.isAsciiDigit, Bool.or_eq_true, Bool.and_eq_true,
      decide_eq_true_eq, beq_iff_eq] at h
    omega
  · refine ⟨by omega, ?_⟩
    rcases Bool.or_eq_true_iff.1 h with h | h
    · exact Text.Ranges.ne_of_contains Text.Ranges.lacksBreaks_nameStarts h
    · exact Text.Ranges.ne_of_contains Text.Ranges.lacksBreaks_nameExtenders h

end Crosswalk

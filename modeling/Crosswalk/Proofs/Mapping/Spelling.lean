import Crosswalk.Mapping.Token
import Mathlib.Data.List.TakeWhile
import Mathlib.Tactic.Common

/-!
# How tokens are spelled

`Spells` relates a text to its tokens without computing them: blanks, a token that is as long as it can
be, and so on to the end. A text has just the tokens that it spells, `tokensFrom_eq_iff`, so
what is said of the tokens of a mapping is proved by going through `Spells`.
-/

namespace Crosswalk
namespace Mapping

/-! ## Characters -/

/-- A word: a nonempty run of ASCII letters, digits, `$` and `_`. -/
def IsWord (t : Text) : Prop :=
  t ≠ [] ∧ ∀ c ∈ t, ∃ ch : Char, c = .ofChar ch ∧ (ch.isAlphanum ∨ ch = '$' ∨ ch = '_')

/-- The code points of the characters of a word are given by number. -/
theorem isWordPart_ofChar (ch : Char) :
    isWordPart (.ofChar ch) ↔ ch.isAlphanum ∨ ch = '$' ∨ ch = '_' := by
  have hval : (CodePoint.ofChar ch).val = ch.val.toNat := rfl
  have hdollar : ch = '$' ↔ ch.val.toNat = 36 := by
    rw [Char.ext_iff, ← UInt32.toNat_inj]
    rfl
  have hlow : ch = '_' ↔ ch.val.toNat = 95 := by
    rw [Char.ext_iff, ← UInt32.toNat_inj]
    rfl
  have halphanum : ch.isAlphanum = (decide ('A'.val ≤ ch.val ∧ ch.val ≤ 'Z'.val) ||
      ('a'.val ≤ ch.val && ch.val ≤ 'z'.val) || ('0'.val ≤ ch.val && ch.val ≤ '9'.val)) := rfl
  simp only [isWordPart, hval, hdollar, hlow, halphanum, Bool.or_eq_true, Bool.and_eq_true,
    decide_eq_true_eq, beq_iff_eq, UInt32.le_iff_toNat_le]
  have : 'Z'.val.toNat = 90 := rfl
  have : 'z'.val.toNat = 122 := rfl
  have : '9'.val.toNat = 57 := rfl
  have : 'A'.val.toNat = 65 := rfl
  have : 'a'.val.toNat = 97 := rfl
  have : '0'.val.toNat = 48 := rfl
  omega

theorem isWordPart_iff (c : CodePoint) :
    isWordPart c ↔ ∃ ch : Char, c = .ofChar ch ∧ (ch.isAlphanum ∨ ch = '$' ∨ ch = '_') := by
  constructor
  · intro h
    have hlt : c.val < 0xD800 := by
      simp only [isWordPart, Bool.or_eq_true, Bool.and_eq_true, decide_eq_true_eq, beq_iff_eq] at h
      omega
    have hc : c = .ofChar (Char.ofNatAux c.val (Or.inl hlt)) := rfl
    exact ⟨_, hc, (isWordPart_ofChar _).1 (hc ▸ h)⟩
  · rintro ⟨ch, rfl, h⟩
    exact (isWordPart_ofChar ch).2 h

theorem isWord_iff (t : Text) : IsWord t ↔ t ≠ [] ∧ ∀ c ∈ t, isWordPart c := by
  simp only [IsWord, isWordPart_iff]

theorem isWord_ofString {s : String} (hne : s.toList.isEmpty = false)
    (h : (s.toList.all fun ch => ch.isAlphanum || ch == '$' || ch == '_') = true) :
    IsWord (.ofString s) := by
  refine ⟨fun hnil => ?_, fun c hc => ?_⟩
  · rw [Text.ofString, List.map_eq_nil_iff] at hnil
    rw [hnil] at hne
    exact absurd hne (by simp)
  · obtain ⟨ch, hch, rfl⟩ := List.mem_map.1 hc
    have hpart := List.all_eq_true.1 h ch hch
    exact ⟨ch, rfl, by simpa [or_assoc] using hpart⟩

/-- A word is the text of a string. -/
theorem ofString_toString_of_isWord {t : Text} (h : IsWord t) : Text.ofString t.toString = t := by
  have hchar : ∀ c ∈ t, CodePoint.ofChar c.toChar = c := by
    intro c hc
    obtain ⟨ch, rfl, -⟩ := h.2 c hc
    rw [CodePoint.toChar_ofChar]
  have hmap : t.map (CodePoint.ofChar ∘ CodePoint.toChar) = t.map id := List.map_congr_left hchar
  simpa [Text.ofString, Text.toString] using hmap

/-- No blank stands in a word. -/
theorem isWordPart_of_isBlank {c : CodePoint} (h : c.isBlank) : isWordPart c = false := by
  rw [Bool.eq_false_iff]
  intro hw
  simp only [CodePoint.isBlank, isWordPart, Bool.or_eq_true, Bool.and_eq_true, decide_eq_true_eq,
    beq_iff_eq] at h hw
  omega

theorem isWordPart_operator (m : Mode) : isWordPart m.operator = false := by
  cases m <;> decide

theorem isBlank_operator (m : Mode) : m.operator.isBlank = false := by
  cases m <;> decide

theorem kindOf_operator (m : Mode) : kindOf m.operator = .operator := by
  cases m <;> decide

/-- Only a mode's own operator stands for it. -/
theorem eq_operator_of_ofOperator? {t : Text} {m : Mode} (h : Mode.ofOperator? t = some m) :
    t = [m.operator] := by
  have := List.find?_some h
  simpa using this

theorem kindOf_eq_identifier {c : CodePoint} : kindOf c = .identifier ↔ isWordPart c := by
  unfold kindOf
  split
  · simp_all
  · split
    · simp_all
    · split <;> simp_all

theorem ofOperator?_isSome_of_kindOf {c : CodePoint} (h : kindOf c = .operator) :
    (Mode.ofOperator? [c]).isSome := by
  unfold kindOf at h
  split at h
  · cases h
  · split at h
    · assumption
    · split at h <;> cases h

theorem eq_comma_of_kindOf {c : CodePoint} (h : kindOf c = .comma) : c = .ofChar ',' := by
  unfold kindOf at h
  split at h
  · cases h
  · split at h
    · cases h
    · split at h
      · assumption
      · cases h

/-! ## Texts and tokens -/

/-- The text of a token is as its kind asks: a word, or one character that is neither blank nor part of
a word. -/
structure Token.IsLexeme (t : Token) : Prop where
  word : t.kind = .identifier → IsWord t.text
  symbol : t.kind ≠ .identifier → ∃ c, t.text = [c] ∧ kindOf c = t.kind ∧ c.isBlank = false

theorem isLexeme_word {w : Text} (hw : IsWord w) (column : Nat) (spaced : Bool) :
    (Token.mk .identifier w column spaced).IsLexeme :=
  ⟨fun _ => hw, fun h => absurd rfl h⟩

theorem isLexeme_symbol {c : CodePoint} {kind : TokenKind} (hc : kindOf c = kind)
    (hkind : kind ≠ .identifier) (hblank : c.isBlank = false) (column : Nat) (spaced : Bool) :
    (Token.mk kind [c] column spaced).IsLexeme :=
  ⟨fun h => absurd h hkind, fun _ => ⟨c, rfl, hc, hblank⟩⟩

/-- A word does not go on at the beginning of the text. -/
def EndsWord (rest : Text) : Prop := ∀ c ∈ rest.head?, isWordPart c = false

/-- The tokens of a text that begins at a column; `spaced` says whether a blank stands before it. -/
inductive Spells : Nat → Bool → Text → List Token → Prop
  | blank (column : Nat) (spaced : Bool) (w : Text) (hw : w.isBlank) : Spells column spaced w []
  | token (column : Nat) (spaced : Bool) (w rest : Text) (t : Token) (ts : List Token)
      (hw : w.isBlank) (hcolumn : t.column = column + w.length)
      (hspaced : t.isSpaced = (spaced || !w.isEmpty)) (hlexeme : t.IsLexeme)
      (hmax : t.kind = .identifier → EndsWord rest) (hrest : Spells t.stop false rest ts) :
      Spells column spaced (w ++ (t.text ++ rest)) (t :: ts)

/-- A blank in front changes no token but for what stands before the first one. -/
theorem Spells.cons_blank {column : Nat} {spaced : Bool} {c : CodePoint} {spec : Text}
    {ts : List Token} (hc : c.isBlank) (h : Spells (column + 1) true spec ts) :
    Spells column spaced (c :: spec) ts := by
  cases h with
  | blank _ _ _ hw =>
    exact .blank _ _ _ (by simp_all [Text.isBlank])
  | token _ _ w rest t ts hw hcolumn hspaced hlexeme hmax hrest =>
    refine .token _ _ (c :: w) rest t ts ?_ ?_ ?_ hlexeme hmax hrest
    · simp_all [Text.isBlank]
    · rw [hcolumn, List.length_cons]
      omega
    · simpa using hspaced

/-- The tokens of a text are spelled by it. -/
theorem spells_tokensFrom (column : Nat) (spaced : Bool) (spec : Text) :
    Spells column spaced spec (tokensFrom column spaced spec) := by
  fun_induction tokensFrom column spaced spec with
  | case1 column spaced => exact .blank _ _ _ rfl
  | case2 column spaced c rest hc ih => exact ih.cons_blank hc
  | case3 column spaced c rest hc hword word ih =>
    have hall : ∀ d ∈ word, isWordPart d := by
      intro d hd
      rcases List.mem_cons.1 hd with rfl | hd
      · exact hword
      · exact List.mem_takeWhile_imp hd
    have hends : EndsWord (rest.dropWhile isWordPart) := by
      intro d hd
      have := List.head?_dropWhile_not isWordPart rest
      rw [Option.mem_def.1 hd] at this
      simpa using this
    have hlexeme := isLexeme_word ((isWord_iff word).2 ⟨List.cons_ne_nil _ _, hall⟩) column spaced
    have key := Spells.token column spaced [] (rest.dropWhile isWordPart) _ _ rfl rfl (by simp)
      hlexeme (fun _ => hends) ih
    simpa [word] using key
  | case4 column spaced c rest hc hword ih =>
    have hkind : kindOf c ≠ .identifier := fun h => hword (kindOf_eq_identifier.1 h)
    have hlexeme := isLexeme_symbol rfl hkind (by simpa using hc) column spaced
    exact .token column spaced [] rest _ _ rfl rfl (by simp) hlexeme (fun h => absurd h hkind) ih

/-- Every token is as its kind asks. -/
theorem Spells.isLexeme {column : Nat} {spaced : Bool} {spec : Text} {ts : List Token}
    (h : Spells column spaced spec ts) : ∀ t ∈ ts, t.IsLexeme := by
  induction h with
  | blank column spaced w hw => simp
  | token column spaced w rest t ts hw hcolumn hspaced hlexeme hmax hrest ih =>
    intro u hu
    rcases List.mem_cons.1 hu with rfl | hu
    · exact hlexeme
    · exact ih u hu

/-- Blanks in front of a text are left out. -/
theorem tokensFrom_blank_append (column : Nat) (spaced : Bool) (w rest : Text) (hw : w.isBlank) :
    tokensFrom column spaced (w ++ rest)
      = tokensFrom (column + w.length) (spaced || !w.isEmpty) rest := by
  induction w generalizing column spaced with
  | nil => simp
  | cons c w ih =>
    simp only [Text.isBlank, List.all_cons, Bool.and_eq_true] at hw
    have hcolumn : column + 1 + w.length = column + (c :: w).length := by
      rw [List.length_cons]
      omega
    rw [List.cons_append, tokensFrom, if_pos hw.1, ih _ _ hw.2, hcolumn]
    simp

/-- A token at the beginning of a text is cut off. -/
theorem tokensFrom_lexeme_append (t : Token) (rest : Text) (ht : t.IsLexeme)
    (hmax : t.kind = .identifier → EndsWord rest) :
    tokensFrom t.column t.isSpaced (t.text ++ rest) = t :: tokensFrom t.stop false rest := by
  obtain ⟨kind, text, column, spaced⟩ := t
  by_cases hkind : kind = .identifier
  · subst hkind
    obtain ⟨hne, hall⟩ := (isWord_iff _).1 (ht.word rfl)
    have hends : EndsWord rest := hmax rfl
    obtain ⟨c, word, rfl⟩ := List.exists_cons_of_ne_nil hne
    have hword : ∀ d ∈ word, isWordPart d := fun d hd => hall d (List.mem_cons_of_mem c hd)
    have hc : isWordPart c := hall c List.mem_cons_self
    have hblank : ¬ c.isBlank := fun h => by simp [isWordPart_of_isBlank h] at hc
    have htake : rest.takeWhile isWordPart = [] := by
      cases rest with
      | nil => rfl
      | cons d rest => simp [hends d rfl]
    have hdrop : rest.dropWhile isWordPart = rest := by
      cases rest with
      | nil => rfl
      | cons d rest => simp [hends d rfl]
    rw [List.cons_append, tokensFrom, if_neg hblank, if_pos hc]
    simp [List.takeWhile_append_of_pos hword, List.dropWhile_append_of_pos hword, htake, hdrop,
      Token.stop]
  · obtain ⟨c, rfl, rfl, hblank⟩ := ht.symbol hkind
    have hword : ¬ isWordPart c := fun h => hkind (kindOf_eq_identifier.2 h)
    rw [List.singleton_append, tokensFrom, if_neg (by simp [hblank]), if_neg hword]
    rfl

/-- A text spells its tokens and no others. -/
theorem tokensFrom_eq_iff {column : Nat} {spaced : Bool} {spec : Text} {ts : List Token} :
    tokensFrom column spaced spec = ts ↔ Spells column spaced spec ts := by
  constructor
  · rintro rfl
    exact spells_tokensFrom column spaced spec
  · intro h
    induction h with
    | blank column spaced w hw =>
      have := tokensFrom_blank_append column spaced w [] hw
      simpa [tokensFrom] using this
    | token column spaced w rest t ts hw hcolumn hspaced hlexeme hmax hrest ih =>
      rw [tokensFrom_blank_append _ _ _ _ hw, ← hcolumn, ← hspaced,
        tokensFrom_lexeme_append t rest hlexeme hmax, ih]

end Mapping
end Crosswalk

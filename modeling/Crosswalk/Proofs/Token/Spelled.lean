import Crosswalk.Proofs.Text.Quoted

/-!
# Pieces of text

`Spelled` is a grammar of one-line texts with the kinds of their tokens: words and quoted texts, with separators
between them and brackets around them. `Ends` and `Begins` say what may follow a piece and what a piece begins with, so
that the tokens of one piece do not run into those of another.
-/

namespace Crosswalk
namespace Token

/-- A word of the language: an identifier, reserved or not. -/
def IsWord (w : String) : Prop := (Text.ofString w).isIdentifier = true

/-- A string literal with a quoted text. -/
def ofQuoted (t : Text) : TokenKind :=
  .string ⟨false, false, false, false, Text.quotedBody (Text.quoteFor t) t⟩

/-- Brackets of one kind. -/
inductive Bracket
  | round
  | square
  | curly

namespace Bracket

def opening : Bracket → Char
  | round => '('
  | square => '['
  | curly => '\x7b'

def closing : Bracket → Char
  | round => ')'
  | square => ']'
  | curly => '\x7d'

/-- A text in brackets. -/
def around (b : Bracket) (cs : List Char) : List Char := b.opening :: (cs ++ [b.closing])

/-- The tokens of a text in brackets. -/
def kinds (b : Bracket) (ks : List TokenKind) : List TokenKind :=
  .op (String.singleton b.opening) :: (ks ++ [.op (String.singleton b.closing)])

theorem length_kinds (b : Bracket) (ks : List TokenKind) : (b.kinds ks).length = ks.length + 2 := by simp [kinds]

theorem kinds_append (b : Bracket) (ks ks' : List TokenKind) : b.kinds ks ++ ks' =
    .op (String.singleton b.opening) :: (ks ++ .op (String.singleton b.closing) :: ks') := by simp [kinds]

end Bracket

/-- What stands between two pieces of text. -/
inductive Separator
  | dot
  | equals
  | colon
  | comma
  | blank

namespace Separator

def chars : Separator → List Char
  | dot => ['.']
  | equals => ['=']
  | colon => [':', ' ']
  | comma => [',', ' ']
  | blank => [' ']

def kinds : Separator → List TokenKind
  | dot => [.op "."]
  | equals => [.op "="]
  | colon => [.op ":"]
  | comma => [.op ","]
  | blank => []

end Separator

/-- Texts on one line with the kinds of their tokens; the number bounds how deep brackets are inside one another. -/
inductive Spelled : Nat → List Char → List TokenKind → Prop
  | word {n : Nat} {w : String} (h : IsWord w) : Spelled n w.toList [.word w]
  | quoted {n : Nat} (t : Text) : Spelled n t.quoted.toList [ofQuoted t]
  | bracketed {n : Nat} {cs : List Char} {ks : List TokenKind} (b : Bracket) (h : Spelled n cs ks) :
      Spelled (n + 1) (b.around cs) (b.kinds ks)
  /-- Brackets right behind a piece. -/
  | applied {n : Nat} {cs cs' : List Char} {ks ks' : List TokenKind} (b : Bracket) (h : Spelled (n + 1) cs ks)
      (h' : Spelled n cs' ks') : Spelled (n + 1) (cs ++ b.around cs') (ks ++ b.kinds ks')
  | separated {n : Nat} {cs cs' : List Char} {ks ks' : List TokenKind} (s : Separator) (h : Spelled n cs ks)
      (h' : Spelled n cs' ks') : Spelled n (cs ++ (s.chars ++ cs')) (ks ++ (s.kinds ++ ks'))
  | starred {n : Nat} {cs : List Char} {ks : List TokenKind} (h : Spelled n cs ks) :
      Spelled n ('*' :: '*' :: cs) (.op "**" :: ks)

/-- What follows cannot go on a word or a string. -/
def Ends (rest : List Char) : Prop := ∀ c ∈ rest.head?, Numeral.isWordPart c = false ∧ c ≠ '\'' ∧ c ≠ '"'

/-- The character can begin a piece: it goes on no operator and no number. -/
structure Begins (c : Char) : Prop where
  inline : IsInline c
  ne_equals : c ≠ '='
  ne_dot : c ≠ '.'
  ne_digit : Numeral.isDigit c = false
  layout : c ∉ [' ', '\t', '\x0c', '#', '\n', '\\']

/-! ## Characters of words -/

theorem isWordPart_of_isNamePart {c : Char} (h : (CodePoint.ofChar c).isNamePart) : Numeral.isWordPart c := by
  have hval : (CodePoint.ofChar c).val = c.toNat := rfl
  have hle (a b : Char) : a ≤ b ↔ a.toNat ≤ b.toNat := Iff.rfl
  have hlow : c = '_' ↔ c.toNat = 95 := ⟨fun h => h ▸ rfl, fun h => Char.toNat_inj.1 h⟩
  unfold CodePoint.isNamePart at h
  rw [hval] at h
  simp only [Numeral.isWordPart, Numeral.isDigit, hle, hlow, Bool.or_eq_true, Bool.and_eq_true, decide_eq_true_eq,
    Char.reduceToNat]
  split at h
  · simp only [CodePoint.isAsciiNameStart, CodePoint.isAsciiDigit, Bool.or_eq_true, Bool.and_eq_true,
      decide_eq_true_eq, beq_iff_eq] at h
    omega
  · omega

theorem begins_of_isNameStart {c : Char} (h : (CodePoint.ofChar c).isNameStart) : Begins c := by
  have hval : (CodePoint.ofChar c).val = c.toNat := rfl
  have hle (a b : Char) : a ≤ b ↔ a.toNat ≤ b.toNat := Iff.rfl
  have hinline := isInline_of_isNamePart (CodePoint.isNamePart_of_isNameStart h)
  have hnat : 65 ≤ c.toNat ∧ c.toNat ≠ 92 := by
    unfold CodePoint.isNameStart at h
    rw [hval] at h
    split at h
    · simp only [CodePoint.isAsciiNameStart, Bool.or_eq_true, Bool.and_eq_true, decide_eq_true_eq, beq_iff_eq] at h
      omega
    · omega
  have hne (d : Char) (hd : d.toNat < 65 ∨ d.toNat = 92) : c ≠ d := by
    rintro rfl
    omega
  refine ⟨hinline, hne _ (by decide), hne _ (by decide), ?_, ?_⟩
  · simp only [Numeral.isDigit, hle, Bool.and_eq_false_iff, decide_eq_false_iff_not, Char.reduceToNat]
    omega
  · simp only [List.mem_cons, List.not_mem_nil, or_false, not_or]
    exact ⟨hne _ (by decide), hne _ (by decide), hne _ (by decide), hne _ (by decide), hne _ (by decide),
      hne _ (by decide)⟩

namespace IsWord

variable {w : String} (h : IsWord w)
include h

theorem exists_cons : ∃ c cs, w.toList = c :: cs ∧ (CodePoint.ofChar c).isNameStart ∧
    ∀ d ∈ w.toList, (CodePoint.ofChar d).isNamePart := by
  unfold IsWord Text.ofString at h
  cases hw : w.toList with
  | nil => simp [hw, Text.isIdentifier] at h
  | cons c cs =>
    rw [hw, List.map_cons, Text.isIdentifier, Bool.and_eq_true, List.all_map, List.all_eq_true] at h
    refine ⟨c, cs, rfl, h.1, fun d hd => ?_⟩
    rcases List.mem_cons.1 hd with rfl | hd
    · exact CodePoint.isNamePart_of_isNameStart h.1
    · exact h.2 d hd

theorem isWordPart : ∀ c ∈ w.toList, Numeral.isWordPart c := by
  obtain ⟨_, _, _, _, hall⟩ := h.exists_cons
  exact fun c hc => isWordPart_of_isNamePart (hall c hc)

end IsWord

/-! ## What pieces are made of -/

namespace Bracket

theorem isInline_opening (b : Bracket) : IsInline b.opening := by
  cases b <;> exact isInline_of_ascii (by decide) (by decide)

theorem isInline_closing (b : Bracket) : IsInline b.closing := by
  cases b <;> exact isInline_of_ascii (by decide) (by decide)

theorem begins_opening (b : Bracket) : Begins b.opening := by
  refine ⟨b.isInline_opening, ?_, ?_, ?_, ?_⟩ <;> cases b <;> decide

theorem ends_opening (b : Bracket) (cs : List Char) : Ends (b.opening :: cs) := by
  rintro c ⟨⟩
  cases b <;> decide

theorem ends_closing (b : Bracket) (cs : List Char) : Ends (b.closing :: cs) := by
  rintro c ⟨⟩
  cases b <;> decide

end Bracket

theorem Separator.isInline (s : Separator) : ∀ c ∈ s.chars, IsInline c := by
  have hall : (s.chars.all fun c => 32 ≤ c.toNat && c.toNat < 0x80) = true := by cases s <;> decide
  simp only [List.all_eq_true, Bool.and_eq_true, decide_eq_true_eq] at hall
  exact fun c hc => isInline_of_ascii (hall c hc).1 (hall c hc).2

theorem Separator.ends (s : Separator) (cs : List Char) : Ends (s.chars ++ cs) := by
  cases s <;> (rintro c ⟨⟩; decide)

theorem toList_quoted (t : Text) :
    t.quoted.toList = Text.quoteFor t :: (Text.quotedBody (Text.quoteFor t) t ++ [Text.quoteFor t]) := by
  rw [Text.quoted, String.toList_ofList]

theorem isInline_of_shielded {quote : Char} {cs : List Char} (h : Text.Shielded quote cs) : ∀ c ∈ cs, IsInline c := by
  induction h with
  | nil => simp
  | plain hc hquote hslash h ih =>
    rw [List.forall_mem_cons]
    exact ⟨hc, ih⟩
  | escaped hc h ih =>
    rw [List.forall_mem_cons, List.forall_mem_cons]
    exact ⟨isInline_of_ascii (by decide) (by decide), hc, ih⟩

/-- A quoted text does not look like one in three quotes. -/
theorem isPrefixOf_eq_false_of_shielded {q : Char} {body rest : List Char} (hq : Text.IsQuote q)
    (h : Text.Shielded q body) (hrest : Ends rest) : [q, q].isPrefixOf (body ++ q :: rest) = false := by
  have hnot (c : Char) (cs : List Char) (hc : c ≠ q) : [q, q].isPrefixOf (c :: cs) = false := by
    simp [List.isPrefixOf, hc.symm]
  cases h with
  | nil =>
    cases rest with
    | nil => simp [List.isPrefixOf]
    | cons c rest =>
      have hc : c ≠ q := by
        have := hrest c rfl
        rcases hq with rfl | rfl
        · exact this.2.1
        · exact this.2.2
      simp [List.isPrefixOf, hc.symm]
  | plain hc hquote => exact hnot _ _ hquote
  | escaped => exact hnot _ _ hq.ne_backslash.symm

namespace Spelled

variable {n : Nat} {cs : List Char} {ks : List TokenKind}

/-- No character of a piece ends the line. -/
theorem isInline (h : Spelled n cs ks) : ∀ c ∈ cs, IsInline c := by
  induction h with
  | word h =>
    obtain ⟨_, _, _, _, hall⟩ := h.exists_cons
    exact fun c hc => isInline_of_isNamePart (hall c hc)
  | quoted t =>
    have hq := Text.isQuote_quoteFor t
    have hbody := isInline_of_shielded (Text.shielded_quotedBody hq t)
    rw [toList_quoted, List.forall_mem_cons, List.forall_mem_append, List.forall_mem_singleton]
    exact ⟨hq.isInline, hbody, hq.isInline⟩
  | bracketed b h ih =>
    rw [Bracket.around, List.forall_mem_cons, List.forall_mem_append, List.forall_mem_singleton]
    exact ⟨b.isInline_opening, ih, b.isInline_closing⟩
  | applied b h h' ih ih' =>
    rw [Bracket.around, List.forall_mem_append, List.forall_mem_cons, List.forall_mem_append,
      List.forall_mem_singleton]
    exact ⟨ih, b.isInline_opening, ih', b.isInline_closing⟩
  | separated s h h' ih ih' =>
    rw [List.forall_mem_append, List.forall_mem_append]
    exact ⟨ih, s.isInline, ih'⟩
  | starred h ih =>
    have hstar : IsInline '*' := isInline_of_ascii (by decide) (by decide)
    rw [List.forall_mem_cons, List.forall_mem_cons]
    exact ⟨hstar, hstar, ih⟩

theorem exists_cons (h : Spelled n cs ks) : ∃ c cs', cs = c :: cs' ∧ Begins c := by
  induction h with
  | word h =>
    obtain ⟨c, cs, hw, hc, -⟩ := h.exists_cons
    exact ⟨c, cs, hw, begins_of_isNameStart hc⟩
  | quoted t =>
    have hq := Text.isQuote_quoteFor t
    refine ⟨_, _, toList_quoted t, hq.isInline, ?_, ?_, ?_, ?_⟩ <;> rcases hq with h | h <;> rw [h] <;> decide
  | bracketed b h ih => exact ⟨_, _, rfl, b.begins_opening⟩
  | applied b h h' ih ih' =>
    obtain ⟨c, cs, rfl, hc⟩ := ih
    exact ⟨c, _, rfl, hc⟩
  | separated s h h' ih ih' =>
    obtain ⟨c, cs, rfl, hc⟩ := ih
    exact ⟨c, _, rfl, hc⟩
  | starred h ih => exact ⟨_, _, rfl, isInline_of_ascii (by decide) (by decide), by decide, by decide, rfl, by decide⟩

/-- No piece has more tokens than characters. -/
theorem length_le (h : Spelled n cs ks) : ks.length ≤ cs.length := by
  induction h with
  | word h =>
    obtain ⟨c, cs, hw, -⟩ := h.exists_cons
    simp [hw]
  | quoted t => simp [toList_quoted]
  | bracketed b h ih => simpa [Bracket.around, Bracket.kinds] using ih
  | applied b h h' ih ih' =>
    simp only [Bracket.around, Bracket.kinds, List.length_append, List.length_cons, List.length_nil]
    omega
  | separated s h h' ih ih' =>
    have hs : s.kinds.length ≤ s.chars.length := by cases s <;> decide
    simp only [List.length_append]
    omega
  | starred h ih =>
    simp only [List.length_cons]
    omega

end Spelled

end Token
end Crosswalk

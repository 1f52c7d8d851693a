import Crosswalk.Proofs.Text.Inline
import Crosswalk.Text.Quoted
import Crosswalk.Token.Lexer
import Crosswalk.Token.StringValue
import Mathlib.Tactic.Ring

/-!
# Quoted text is read back

What stands between the quotes of a quoted text has the text as its value, `decode_quotedBody`, whatever the text
holds: quotes, backslashes, line breaks and surrogates are all escaped. No quote in it is bare and no character ends
a line, `shielded_quotedBody`, so a string literal ends where it should.
-/

namespace Crosswalk

namespace Text

/-- A character that strings are quoted with. -/
def IsQuote (quote : Char) : Prop := quote = '\'' ∨ quote = '"'

/-- Characters within a line, with each quote and each backslash shielded by a backslash in front. -/
inductive Shielded (quote : Char) : List Char → Prop
  | nil : Shielded quote []
  | plain {c : Char} {cs : List Char} (hc : IsInline c) (hquote : c ≠ quote) (hslash : c ≠ '\\')
      (h : Shielded quote cs) : Shielded quote (c :: cs)
  | escaped {c : Char} {cs : List Char} (hc : IsInline c) (h : Shielded quote cs) : Shielded quote ('\\' :: c :: cs)

theorem isQuote_quoteFor (t : Text) : IsQuote (quoteFor t) := by
  unfold quoteFor
  split
  · exact .inr rfl
  · exact .inl rfl

namespace IsQuote

variable {quote : Char} (hq : IsQuote quote)
include hq

theorem isInline : IsInline quote := by
  rcases hq with rfl | rfl <;> exact isInline_of_ascii (by decide) (by decide)

theorem ne_backslash : quote ≠ '\\' := by
  rcases hq with rfl | rfl <;> decide

end IsQuote

/-! ## Hexadecimal digits -/

/-- What is used of a digit: it is one, it has its value, and it is an ordinary character. -/
theorem hexDigit_spec {n : Nat} (hn : n < 16) :
    Numeral.isHexDigit (hexDigit n) = true ∧ Ranges.hexValue (hexDigit n) = n ∧ 48 ≤ (hexDigit n).toNat ∧
      (hexDigit n).toNat < 0x80 ∧ hexDigit n ≠ '\\' := by
  have hall : ∀ n : Fin 16, Numeral.isHexDigit (hexDigit n) = true ∧ Ranges.hexValue (hexDigit n) = n ∧
      48 ≤ (hexDigit n).toNat ∧ (hexDigit n).toNat < 0x80 ∧ hexDigit n ≠ '\\' := by decide
  exact hall ⟨n, hn⟩

/-- Digits need no shield. -/
theorem Shielded.hexDigits {quote : Char} {cs : List Char} (hq : IsQuote quote) (h : Shielded quote cs) (width : Nat) :
    ∀ n, Shielded quote (hexDigits width n ++ cs) := by
  induction width generalizing cs with
  | zero => exact fun _ => h
  | succ width ih =>
    intro n
    obtain ⟨-, -, hlow, hhigh, hslash⟩ := hexDigit_spec (Nat.mod_lt n (by omega))
    have hquote : hexDigit (n % 16) ≠ quote := by
      rcases hq with rfl | rfl <;> exact fun heq => absurd (heq ▸ hlow) (by decide)
    rw [Crosswalk.hexDigits, List.append_assoc]
    exact ih (.plain (isInline_of_ascii (by omega) hhigh) hquote hslash h) (n / 16)

/-! ## What stands between the quotes -/

/-- The escapes of code points: a short one, or a letter and the digits that it asks for. -/
inductive Escapes (c : CodePoint) : List Char → Prop
  | short (letter value : Char) (hletter : IsInline letter) (hshort : Escape.short? letter = some value)
      (hvalue : .ofChar value = c) : Escapes c ['\\', letter]
  | digits (letter : Char) (width : Nat) (hletter : IsInline letter)
      (hopens : Escape.afterBackslash letter = (.hex (width + 1) 0, [])) (hlt : c.val < 16 ^ (width + 1)) :
      Escapes c ('\\' :: letter :: hexDigits (width + 1) c.val)

theorem escapes_escape (c : CodePoint) : Escapes c c.escape := by
  unfold CodePoint.escape
  split
  · exact .short 't' '\t' (isInline_of_ascii (by decide) (by decide)) rfl (Fin.ext (by simp_all; rfl))
  split
  · exact .short 'n' '\n' (isInline_of_ascii (by decide) (by decide)) rfl (Fin.ext (by simp_all; rfl))
  split
  · exact .short 'r' '\r' (isInline_of_ascii (by decide) (by decide)) rfl (Fin.ext (by simp_all; rfl))
  split
  · exact .short '\\' '\\' (isInline_of_ascii (by decide) (by decide)) rfl (Fin.ext (by simp_all; rfl))
  split
  · exact .digits 'x' 1 (isInline_of_ascii (by decide) (by decide)) rfl (by omega)
  split
  · exact .digits 'u' 3 (isInline_of_ascii (by decide) (by decide)) rfl (by omega)
  · have := c.isLt
    exact .digits 'U' 7 (isInline_of_ascii (by decide) (by decide)) rfl (by omega)

/-- A character inside quotes is escaped, or is one that prints. -/
theorem quotedChar_cases {quote : Char} (hq : IsQuote quote) (c : CodePoint) :
    Escapes c (quotedChar quote c) ∨
      quotedChar quote c = [c.toChar] ∧ c ≠ .ofChar quote ∧ c.val ≠ 92 ∧ c.isPrintable := by
  unfold quotedChar
  split
  · rename_i hc
    exact .inl (.short quote quote hq.isInline (by rcases hq with rfl | rfl <;> rfl) hc.symm)
  · rename_i hquote
    split
    · exact .inl (escapes_escape c)
    · rename_i h
      simp only [Bool.or_eq_true, decide_eq_true_eq, Bool.not_eq_true', not_or, Bool.not_eq_false] at h
      exact .inr ⟨rfl, hquote, by simpa using h.1, h.2⟩

theorem shielded_quotedBody {quote : Char} (hq : IsQuote quote) (t : Text) : Shielded quote (quotedBody quote t) := by
  induction t with
  | nil => exact .nil
  | cons c t ih =>
    rw [quotedBody, List.flatMap_cons]
    rcases quotedChar_cases hq c with hescapes | ⟨hplain, hquote, hslash, hprintable⟩
    · generalize quotedChar quote c = cs at hescapes
      cases hescapes with
      | short letter value hletter => exact .escaped hletter ih
      | digits letter width hletter => exact .escaped hletter (ih.hexDigits hq _ _)
    · have hsurrogate := CodePoint.isSurrogate_of_isPrintable hprintable
      rw [hplain]
      refine .plain (isInline_of_isPrintable hprintable) (fun heq => hquote ?_) (fun heq => hslash ?_) ih
      · rw [← heq, CodePoint.ofChar_toChar hsurrogate]
      · rw [← CodePoint.toNat_toChar hsurrogate, heq]
        rfl

/-! ## Reading it -/

/-- A string ends at the first bare quote. -/
theorem stringBody_of_shielded {quote : Char} {cs : List Char} (hq : IsQuote quote) (h : Shielded quote cs)
    (rest : List Char) : Token.stringBody quote (cs ++ quote :: rest) = some (cs, rest) := by
  induction h with
  | nil =>
    rw [List.nil_append, Token.stringBody, if_pos rfl]
    rintro c cs rfl
    exact absurd rfl hq.ne_backslash
  | plain hc hquote hslash h ih =>
    rw [List.cons_append, Token.stringBody, if_neg hquote, if_neg hc.ne_newline, ih]
    · rfl
    · rintro c cs rfl
      exact absurd rfl hslash
  | escaped hc h ih =>
    rw [List.cons_append, List.cons_append, Token.stringBody, ih]
    rfl

end Text

namespace Escape

open Text (IsQuote Escapes)

/-- A character in the midst of an escape says nothing yet. -/
theorem decodeFrom_of_silent {s s' : State} {c : Char} (h : step s c = some (s', [])) (cs : List Char) :
    decodeFrom s (c :: cs) = decodeFrom s' cs := by
  rw [decodeFrom, h, Option.bind_some]
  exact Option.map_id'

/-- A character that ends an escape, or stands outside of one, says a code point. -/
theorem decodeFrom_of_said {s : State} {c : Char} {v : CodePoint} (h : step s c = some (.outside, [v]))
    (cs : List Char) : decodeFrom s (c :: cs) = (decodeFrom .outside cs).map (v :: ·) := by
  rw [decodeFrom, h, Option.bind_some]
  rfl

/-- The digits of a number give its value, as long as another one is to come. -/
theorem decodeFrom_hexDigits (left : Nat) (rest : List Char) (width : Nat) :
    ∀ n value : Nat, decodeFrom (.hex (width + left + 1) value) (hexDigits width n ++ rest) =
      decodeFrom (.hex (left + 1) (value * 16 ^ width + n % 16 ^ width)) rest := by
  induction width generalizing left rest with
  | zero =>
    intro n value
    simp [hexDigits, Nat.mod_one]
  | succ width ih =>
    intro n value
    obtain ⟨hdigit, hvalue, -⟩ := Text.hexDigit_spec (Nat.mod_lt n (by omega))
    have hleft : width + 1 + left + 1 = width + (left + 1) + 1 := by omega
    have hsum : 16 * (value * 16 ^ width + n / 16 % 16 ^ width) + n % 16 =
        value * 16 ^ (width + 1) + n % 16 ^ (width + 1) := by
      rw [Nat.pow_succ, Nat.mul_comm (16 ^ width) 16, Nat.mod_mul]
      ring
    have hstep (before : Nat) : step (.hex (left + 1 + 1) before) (hexDigit (n % 16)) =
        some (.hex (left + 1) (16 * before + n % 16), []) := by
      simp [step, hdigit, hvalue]
    rw [hexDigits, List.append_assoc, hleft, ih, List.singleton_append, decodeFrom_of_silent (hstep _), hsum]

/-- An escape is read as the code point that it is of. -/
theorem decodeFrom_of_escapes {c : CodePoint} {cs : List Char} (h : Escapes c cs) (rest : List Char) :
    decodeFrom .outside (cs ++ rest) = (decodeFrom .outside rest).map (c :: ·) := by
  have hopen : step .outside '\\' = some (.opened, []) := rfl
  cases h with
  | short letter value hletter hshort hvalue =>
    have hsaid : step .opened letter = some (.outside, [c]) := by
      simp [step, afterBackslash, hshort, hvalue]
    rw [List.cons_append, decodeFrom_of_silent hopen, List.singleton_append, decodeFrom_of_said hsaid]
  | digits letter width hletter hopens hlt =>
    obtain ⟨hdigit, hvalue, -⟩ := Text.hexDigit_spec (Nat.mod_lt c.val (by omega))
    -- the last digit is the one that ends the escape
    have hdigits := decodeFrom_hexDigits 0 (hexDigit (c.val % 16) :: rest) width (c.val / 16) 0
    have hmod : c.val / 16 % 16 ^ width = c.val / 16 := by
      rw [Nat.mod_eq_of_lt]
      rw [Nat.pow_succ] at hlt
      omega
    rw [Nat.zero_mul, hmod] at hdigits
    have hopens : step .opened letter = some (.hex (width + 1) 0, []) := congrArg some hopens
    have hsaid : step (.hex 1 (0 + c.val / 16)) (hexDigit (c.val % 16)) = some (.outside, [c]) := by
      simp [step, hdigit, hvalue, Nat.div_add_mod, codePoint?]
    rw [List.cons_append, List.cons_append, decodeFrom_of_silent hopen, decodeFrom_of_silent hopens, hexDigits,
      List.append_assoc, List.singleton_append, hdigits, decodeFrom_of_said hsaid]

/-- What is written between quotes has the text as its value. -/
theorem decode_quotedBody {quote : Char} (hq : IsQuote quote) (t : Text) :
    decode (Text.quotedBody quote t) = some t := by
  unfold decode
  induction t with
  | nil => rfl
  | cons c t ih =>
    rw [Text.quotedBody, List.flatMap_cons]
    change decodeFrom .outside (_ ++ Text.quotedBody quote t) = _
    rcases Text.quotedChar_cases hq c with hescapes | ⟨hplain, -, hslash, hprintable⟩
    · rw [decodeFrom_of_escapes hescapes, ih]
      rfl
    · have hsurrogate := CodePoint.isSurrogate_of_isPrintable hprintable
      have hne : c.toChar ≠ '\\' := fun heq => hslash (by rw [← CodePoint.toNat_toChar hsurrogate, heq]; rfl)
      have hsaid : step .outside c.toChar = some (.outside, [c]) := by
        rw [step, plain, if_neg hne, CodePoint.ofChar_toChar hsurrogate]
      rw [hplain, List.singleton_append, decodeFrom_of_said hsaid, ih]
      rfl

end Escape

end Crosswalk

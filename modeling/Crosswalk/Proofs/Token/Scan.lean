import Crosswalk.Proofs.Token.Spelled

/-!
# Tokens of text

A text of the grammar of pieces has just the tokens that the grammar gives it, `map_kind_scan`. The proof goes along the
grammar, piece by piece: each leads from one place in the text to the next, `Spelled.leads`.
-/

namespace Crosswalk
namespace Token

/-! ## One token -/

/-- The letters that may stand in front of a string stand in words. -/
theorem isWordPart_of_toLower {c : Char} (h : c.toLower ∈ ['b', 'r', 'u', 'f']) : Numeral.isWordPart c := by
  unfold Char.toLower at h
  split at h
  · rename_i hupper
    have hle (a b : Char) : a ≤ b ↔ a.toNat ≤ b.toNat := Iff.rfl
    have hnat : 65 ≤ c.toNat ∧ c.toNat ≤ 90 := hupper
    simp only [Numeral.isWordPart, hle, Bool.or_eq_true, Bool.and_eq_true, decide_eq_true_eq, Char.reduceToNat]
    omega
  · simp only [List.mem_cons, List.not_mem_nil, or_false] at h
    rcases h with rfl | rfl | rfl | rfl <;> decide

/-- No string begins here if in front of each quote stands something else than a letter of a string. -/
theorem stringPrefix?_eq_none {cs : List Char}
    (h : ∀ n d, cs[n]? = some d → (d = '\'' ∨ d = '"') → ∃ e ∈ cs.take n, Numeral.isWordPart e = false) :
    stringPrefix? cs = none := by
  have hletters : ∀ p ∈ stringPrefixes, p ⊆ ['b', 'r', 'u', 'f'] := by decide
  unfold stringPrefix?
  rw [List.find?_eq_none]
  intro n _ hfound
  split at hfound
  · rename_i d rest hdrop
    simp only [Bool.and_eq_true, Bool.or_eq_true, decide_eq_true_eq, List.contains_iff_mem] at hfound
    have hd : cs[n]? = some d := by rw [← List.head?_drop, hdrop, List.head?_cons]
    obtain ⟨e, he, hpart⟩ := h n d hd hfound.1
    have := isWordPart_of_toLower (hletters _ hfound.2 (List.mem_map_of_mem he))
    simp [this] at hpart
  · cases hfound

theorem first_word {w : String} (hw : IsWord w) {rest : List Char} (hrest : Ends rest) (brackets : List Char) :
    first brackets (w.toList ++ rest) = some (.word w, rest, brackets) := by
  have hparts := hw.isWordPart
  have hquotes : ∀ c, Numeral.isWordPart c → c ≠ '\'' ∧ c ≠ '"' := by
    rintro c hc
    constructor <;> (rintro rfl; revert hc; decide)
  have hnostring : stringPrefix? (w.toList ++ rest) = none := by
    refine stringPrefix?_eq_none fun n d hd hquote => ?_
    rcases Nat.lt_trichotomy n w.toList.length with hlt | heq | hgt
    -- within the word stands no quote, right behind it neither, and further on not all in front is of the word
    · rw [List.getElem?_append_left hlt] at hd
      have := hquotes d (hparts d (List.mem_of_getElem? hd))
      rcases hquote with rfl | rfl <;> simp at this
    · rw [heq, List.getElem?_append_right (Nat.le_refl _), Nat.sub_self, ← List.head?_eq_getElem?] at hd
      have := hrest d hd
      rcases hquote with rfl | rfl <;> simp at this
    · cases rest with
      | nil =>
        rw [List.append_nil, List.getElem?_eq_none (by omega)] at hd
        cases hd
      | cons e rest =>
        refine ⟨e, ?_, (hrest e rfl).1⟩
        rw [List.take_append, List.mem_append]
        refine .inr ?_
        obtain ⟨k, hk⟩ : ∃ k, n - w.toList.length = k + 1 := ⟨n - w.toList.length - 1, by omega⟩
        simp [hk]
  have htake : (w.toList ++ rest).takeWhile Numeral.isWordPart = w.toList := by
    rw [List.takeWhile_append_of_pos hparts]
    cases rest with
    | nil => simp
    | cons e rest => simp [(hrest e rfl).1]
  have hdrop : (w.toList ++ rest).dropWhile Numeral.isWordPart = rest := by
    rw [List.dropWhile_append_of_pos hparts]
    cases rest with
    | nil => rfl
    | cons e rest => simp [(hrest e rfl).1]
  have hword : word? w.toList = some w := by
    have : Text.isIdentifier (Text.ofString w) = true := hw
    simp [word?, this]
  obtain ⟨c, cs, hcs, hc, -⟩ := hw.exists_cons
  have hbegins := begins_of_isNameStart hc
  have hpart := hparts c (hcs ▸ List.mem_cons_self)
  have hne : (Numeral.isDigit c || (c = '.' && (cs ++ rest).head?.any Numeral.isDigit)) = false := by
    simp [hbegins.ne_digit, hbegins.ne_dot]
  unfold first
  rw [hnostring]
  rw [hcs, List.cons_append] at htake hdrop ⊢
  simp only [hne, hpart, htake, hdrop, Bool.false_eq_true, if_false, if_true]
  rw [← hcs, hword]
  rfl

theorem first_quoted (t : Text) {rest : List Char} (hrest : Ends rest) (brackets : List Char) :
    first brackets (t.quoted.toList ++ rest) = some (ofQuoted t, rest, brackets) := by
  have hq := Text.isQuote_quoteFor t
  have hshielded := Text.shielded_quotedBody hq t
  rw [toList_quoted, ofQuoted]
  generalize Text.quoteFor t = q at hq hshielded ⊢
  generalize Text.quotedBody q t = body at hshielded ⊢
  have hnostring (cs : List Char) : stringPrefix? (q :: cs) = some 0 := by
    rcases hq with rfl | rfl <;> rfl
  have hshort := isPrefixOf_eq_false_of_shielded hq hshielded hrest
  unfold first
  rw [List.cons_append, hnostring, List.append_assoc, List.singleton_append]
  simp only [List.drop_zero, quotedBody?, hshort, Bool.false_eq_true, if_false,
    Text.stringBody_of_shielded hq hshielded, Option.map_some]
  rfl

/-- What can stand in no word and is no quote begins no string. -/
theorem stringPrefix?_of_op {c : Char} (hpart : Numeral.isWordPart c = false) (hquote : c ≠ '\'' ∧ c ≠ '"')
    (cs : List Char) : stringPrefix? (c :: cs) = none := by
  refine stringPrefix?_eq_none fun n d hd hd' => ?_
  cases n with
  | zero =>
    cases hd
    exact absurd hd' (by simp [hquote])
  | succ n => exact ⟨c, by simp, hpart⟩

theorem isDigit_of_op {c : Char} (hpart : Numeral.isWordPart c = false) : Numeral.isDigit c = false := by
  simp only [Numeral.isWordPart, Bool.or_eq_false_iff] at hpart
  exact hpart.1.1.1.1

/-- An operator of one character, if no longer one begins with it. -/
theorem first_short {c : Char} {rest brackets open' : List Char} (hc : isVisible c)
    (hpart : Numeral.isWordPart c = false) (hquote : c ≠ '\'' ∧ c ≠ '"')
    (hdot : c = '.' → rest.head?.any Numeral.isDigit = false)
    (hlong : longOperators.find? (·.isPrefixOf (c :: rest)) = none) (hnest : nest brackets c = some open') :
    first brackets (c :: rest) = some (.op (String.singleton c), rest, open') := by
  have hne : (Numeral.isDigit c || (c = '.' && rest.head?.any Numeral.isDigit)) = false := by
    rw [isDigit_of_op hpart, Bool.false_or, Bool.and_eq_false_iff, decide_eq_false_iff_not, ← imp_iff_not_or]
    exact hdot
  unfold first
  rw [stringPrefix?_of_op hpart hquote]
  simp only [hne, hpart, hlong, hnest, Bool.false_eq_true, if_false, Option.bind_some, if_pos hc]

theorem first_long {c : Char} {cs rest brackets o : List Char} (hpart : Numeral.isWordPart c = false)
    (hquote : c ≠ '\'' ∧ c ≠ '"') (hdot : c ≠ '.')
    (hlong : longOperators.find? (·.isPrefixOf (c :: cs)) = some o) (hrest : (c :: cs).drop o.length = rest) :
    first brackets (c :: cs) = some (.op (String.ofList o), rest, brackets) := by
  unfold first
  rw [stringPrefix?_of_op hpart hquote]
  simp only [isDigit_of_op hpart, hdot, hpart, hlong, hrest, Bool.false_eq_true, if_false, Bool.or_self, decide_false,
    Bool.false_and]

/-! ## From one place to another -/

/-- With the brackets given open the first characters give tokens of these kinds, and lead to the second ones with
other brackets open. -/
def Leads (brackets cs : List Char) (ks : List TokenKind) (open' rest : List Char) : Prop :=
  ∀ (pos : Pos) (indents : List (Nat × Nat)), ∃ (pos' : Pos) (steps : Nat) (ts : List Token),
    steps + rest.length ≤ cs.length ∧ ts.map Token.kind = ks ∧ ∀ fuel,
      scanRest (fuel + steps) false ⟨pos, indents, brackets⟩ cs =
        ts ++ scanRest fuel false ⟨pos', indents, open'⟩ rest

theorem Leads.trans {brackets brackets' brackets'' cs cs' cs'' : List Char} {ks ks' : List TokenKind}
    (h : Leads brackets cs ks brackets' cs') (h' : Leads brackets' cs' ks' brackets'' cs'') :
    Leads brackets cs (ks ++ ks') brackets'' cs'' := by
  intro pos indents
  obtain ⟨pos', steps, ts, hsteps, hts, hscan⟩ := h pos indents
  obtain ⟨pos'', steps', ts', hsteps', hts', hscan'⟩ := h' pos' indents
  refine ⟨pos'', steps' + steps, ts ++ ts', by omega, by rw [List.map_append, hts, hts'], fun fuel => ?_⟩
  rw [← Nat.add_assoc, hscan, hscan', List.append_assoc]

theorem leads_blank (brackets cs : List Char) : Leads brackets (' ' :: cs) [] brackets cs := by
  intro pos indents
  refine ⟨pos.advance ' ', 1, [], by rw [List.length_cons, Nat.add_comm], rfl, fun fuel => ?_⟩
  rw [scanRest, List.nil_append]

/-- A token leads to what is left of the characters. -/
theorem leads_first {c : Char} {brackets cs open' rest : List Char} {kind : TokenKind}
    (hc : c ∉ [' ', '\t', '\x0c', '#', '\n', '\\']) (h : first brackets (c :: cs) = some (kind, rest, open'))
    (hlt : rest.length ≤ cs.length) : Leads brackets (c :: cs) [kind] open' rest := by
  intro pos indents
  simp only [List.mem_cons, List.not_mem_nil, or_false, not_or] at hc
  obtain ⟨hblank, htab, hfeed, hsign, hline, hslash⟩ := hc
  let stop := pos.advanceAll ((c :: cs).take ((c :: cs).length - rest.length))
  refine ⟨stop, 1, [⟨kind, pos, stop⟩], by rw [List.length_cons]; omega, rfl, fun fuel => ?_⟩
  rw [scanRest]
  · dsimp only
    rw [h]
    rfl
  all_goals simp_all

/-! ## Operators -/

/-- No long operator begins with the character if what follows is not the second one of an operator. -/
theorem find?_longOperators_eq_none {c : Char} {cs : List Char}
    (h : ∀ o ∈ longOperators, o.head? = some c → o[1]? ≠ cs.head?) :
    longOperators.find? (·.isPrefixOf (c :: cs)) = none := by
  have hlength : ∀ o ∈ longOperators, 2 ≤ o.length := by decide
  rw [List.find?_eq_none]
  intro o ho hfound
  obtain ⟨rest, hrest⟩ := List.isPrefixOf_iff_prefix.1 hfound
  match o, hlength o ho with
  | a :: b :: o, _ =>
    cases hrest
    exact h _ ho rfl rfl

theorem leads_opening (b : Bracket) {brackets : List Char} (h : brackets.length < maxBrackets) (cs : List Char) :
    Leads brackets (b.opening :: cs) [.op (String.singleton b.opening)] (b.opening :: brackets) cs := by
  have hlong : ∀ o ∈ longOperators, o.head? ≠ some b.opening := by cases b <;> decide
  have hnest : nest brackets b.opening = some (b.opening :: brackets) := by
    cases b <;> simp [nest, Bracket.opening, Nat.not_le.2 h]
  refine leads_first b.begins_opening.layout (first_short ?_ ?_ ?_ (fun hdot => ?_) ?_ hnest) (Nat.le_refl _)
  · cases b <;> decide
  · cases b <;> decide
  · cases b <;> decide
  · exact absurd hdot b.begins_opening.ne_dot
  · exact find?_longOperators_eq_none fun o ho hc => absurd hc (hlong o ho)

theorem leads_closing (b : Bracket) (brackets cs : List Char) :
    Leads (b.opening :: brackets) (b.closing :: cs) [.op (String.singleton b.closing)] brackets cs := by
  have hlong : ∀ o ∈ longOperators, o.head? ≠ some b.closing := by cases b <;> decide
  have hnest : nest (b.opening :: brackets) b.closing = some brackets := by
    cases b <;> simp [nest, Bracket.opening, Bracket.closing, Token.closing]
  refine leads_first ?_ (first_short ?_ ?_ ?_ (fun hdot => ?_) ?_ hnest) (Nat.le_refl _)
  · cases b <;> decide
  · cases b <;> decide
  · cases b <;> decide
  · cases b <;> decide
  · cases b <;> cases hdot
  · exact find?_longOperators_eq_none fun o ho hc => absurd hc (hlong o ho)

/-- A separator in front of a piece. -/
theorem leads_separator (s : Separator) {c : Char} (hc : Begins c) (brackets cs : List Char) :
    Leads brackets (s.chars ++ c :: cs) s.kinds brackets (c :: cs) := by
  have hsecond : ∀ o ∈ longOperators, o.head? = some '=' ∨ o.head? = some ':' → o[1]? = some '=' := by decide
  have hdots : ∀ o ∈ longOperators, o.head? = some '.' → o[1]? = some '.' := by decide
  have hcomma : ∀ o ∈ longOperators, o.head? ≠ some ',' := by decide
  cases s with
  | dot =>
    refine leads_first (by decide) (first_short rfl rfl (by decide) (fun _ => ?_) ?_ rfl) (Nat.le_refl _)
    · exact hc.ne_digit
    · refine find?_longOperators_eq_none fun o ho h heq => hc.ne_dot ?_
      exact (Option.some.inj ((hdots o ho h).symm.trans heq)).symm
  | equals =>
    refine leads_first (by decide) (first_short rfl rfl (by decide) nofun ?_ rfl) (Nat.le_refl _)
    refine find?_longOperators_eq_none fun o ho h heq => hc.ne_equals ?_
    exact (Option.some.inj ((hsecond o ho (.inl h)).symm.trans heq)).symm
  | colon =>
    have hmark : Leads brackets (':' :: ' ' :: c :: cs) [.op ":"] brackets (' ' :: c :: cs) := by
      refine leads_first (by decide) (first_short rfl rfl (by decide) nofun ?_ rfl) (Nat.le_refl _)
      refine find?_longOperators_eq_none fun o ho h heq => ?_
      cases (hsecond o ho (.inr h)).symm.trans heq
    exact hmark.trans (leads_blank brackets _)
  | comma =>
    have hmark : Leads brackets (',' :: ' ' :: c :: cs) [.op ","] brackets (' ' :: c :: cs) := by
      refine leads_first (by decide) (first_short rfl rfl (by decide) nofun ?_ rfl) (Nat.le_refl _)
      exact find?_longOperators_eq_none fun o ho h => absurd h (hcomma o ho)
    exact hmark.trans (leads_blank brackets _)
  | blank => exact leads_blank _ _

/-- Two stars in front of a piece. -/
theorem leads_stars {c : Char} (hc : Begins c) (brackets cs : List Char) :
    Leads brackets ('*' :: '*' :: c :: cs) [.op "**"] brackets (c :: cs) := by
  have hlong : longOperators.find? (·.isPrefixOf ('*' :: '*' :: c :: cs)) = some ['*', '*'] := by
    have hne : ('=' == c) = false := beq_eq_false_iff_ne.2 hc.ne_equals.symm
    simp [longOperators, List.isPrefixOf, hne]
  exact leads_first (by decide) (first_long rfl (by decide) (by decide) hlong rfl) (by simp)

/-- Brackets around what is read with them open. -/
theorem leads_around (b : Bracket) {brackets cs rest : List Char} {ks : List TokenKind}
    (hlt : brackets.length < maxBrackets)
    (h : Leads (b.opening :: brackets) (cs ++ b.closing :: rest) ks (b.opening :: brackets) (b.closing :: rest)) :
    Leads brackets (b.around cs ++ rest) (b.kinds ks) brackets rest := by
  rw [Bracket.around, List.cons_append, List.append_assoc, List.singleton_append]
  exact (leads_opening b hlt _).trans (h.trans (leads_closing b brackets rest))

/-! ## Whole texts -/

/-- A piece is read as its tokens, whatever follows that does not go on with it. -/
theorem Spelled.leads {n : Nat} {cs : List Char} {ks : List TokenKind} (h : Spelled n cs ks) (brackets rest : List Char)
    (hdepth : brackets.length + n ≤ maxBrackets) (hrest : Ends rest) :
    Leads brackets (cs ++ rest) ks brackets rest := by
  induction h generalizing brackets rest with
  | word h =>
    obtain ⟨c, cs, hw, hc, -⟩ := h.exists_cons
    have hfirst := first_word h hrest brackets
    rw [hw, List.cons_append] at hfirst ⊢
    exact leads_first (begins_of_isNameStart hc).layout hfirst (by simp)
  | quoted t =>
    obtain ⟨c, cs, hcs, hc⟩ := (Spelled.quoted (n := 0) t).exists_cons
    have hfirst := first_quoted t hrest brackets
    rw [hcs, List.cons_append] at hfirst ⊢
    exact leads_first hc.layout hfirst (by simp)
  | bracketed b h ih =>
    have hinner := ih (b.opening :: brackets) (b.closing :: rest) (by rw [List.length_cons]; omega)
      (b.ends_closing rest)
    exact leads_around b (by omega) hinner
  | applied b h h' ih ih' =>
    have hinner := ih' (b.opening :: brackets) (b.closing :: rest) (by rw [List.length_cons]; omega)
      (b.ends_closing rest)
    rw [List.append_assoc]
    exact (ih brackets _ hdepth (b.ends_opening _)).trans (leads_around b (by omega) hinner)
  | separated s h h' ih ih' =>
    obtain ⟨c, cs, rfl, hc⟩ := h'.exists_cons
    have hfront := ih brackets (s.chars ++ (c :: cs ++ rest)) hdepth (s.ends _)
    rw [List.append_assoc, List.append_assoc]
    exact hfront.trans ((leads_separator s hc brackets _).trans (ih' brackets rest hdepth hrest))
  | starred h ih =>
    obtain ⟨c, cs, rfl, hc⟩ := h.exists_cons
    exact (leads_stars hc brackets _).trans (ih brackets rest hdepth hrest)

/-- What is on one line is left alone by the rules on line ends. -/
theorem unified_of_isInline {cs : List Char} (h : ∀ c ∈ cs, IsInline c) : Text.Lines.unified cs = cs := by
  induction cs with
  | nil => rfl
  | cons c cs ih =>
    rw [List.forall_mem_cons] at h
    rw [Text.Lines.unified, ih h.2, if_neg h.1.ne_return]
    rintro cs rfl
    exact absurd rfl h.1.ne_return

/-- The end of the only line of a source. -/
theorem scanRest_newline (fuel : Nat) (pos : Pos) : scanRest (fuel + 3) false ⟨pos, [(0, 0)], []⟩ ['\n'] =
    [⟨.newline, pos, pos⟩, mark (pos.advance '\n') .ending] := by
  simp [scanRest, scanLine, margin, reindent, finish]

/-- A text of the grammar has just its tokens. -/
theorem map_kind_scan {n : Nat} {cs : List Char} {ks : List TokenKind} (h : Spelled n cs ks) (hn : n ≤ maxBrackets) :
    (scan cs).map Token.kind = ks ++ [.newline, .ending] := by
  have hclose : closeLine cs = cs ++ ['\n'] :=
    if_neg fun hlast => (h.isInline _ (List.mem_of_getLast? hlast)).ne_newline rfl
  have hends : Ends ['\n'] := by
    rintro c ⟨⟩
    decide
  obtain ⟨pos, steps, ts, hsteps, hts, hscan⟩ := h.leads [] ['\n'] (by simpa using hn) hends ⟨1, 0⟩ [(0, 0)]
  rw [scan, unified_of_isInline h.isInline, hclose, scanChars]
  -- no token takes more steps than it has characters, and three are left for the end of the line
  obtain ⟨fuel, hfuel⟩ : ∃ fuel, 2 * (cs ++ ['\n']).length + 1 = fuel + 3 + steps := by
    refine ⟨2 * (cs ++ ['\n']).length - 2 - steps, ?_⟩
    rw [List.length_append, List.length_singleton] at hsteps ⊢
    omega
  obtain ⟨c, cs, rfl, hc⟩ := h.exists_cons
  have hlayout := hc.layout
  simp only [List.mem_cons, List.not_mem_nil, or_false, not_or] at hlayout
  have hmargin : margin 0 0 0 ⟨1, 0⟩ (c :: cs ++ ['\n']) = some ⟨0, 0, ⟨1, 0⟩, c :: cs ++ ['\n']⟩ := by
    rw [List.cons_append, margin]
    · rfl
    all_goals simp_all
  rw [scanLine, hmargin, hfuel]
  have hline := hscan (fuel + 3)
  rw [scanRest_newline, List.cons_append] at hline
  simp [reindent, hlayout, hline, hts, mark]

end Token
end Crosswalk

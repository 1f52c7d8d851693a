import Crosswalk.Proofs.Token.Spelled
import Crosswalk.Proofs.Tree.Read

/-!
# Text without comments

The scan for comments finds none in a text of the grammar of pieces and ends well: `scan_eq_ok_nil`. To this scan too a
quoted text is one string, brackets are closed again, and the text has one line. So reading such a text is parsing it,
`Tree.read_of_parse`.
-/

namespace Crosswalk
namespace Comment

open Token (Spelled Ends Begins)

/-- The scan passes over the first characters up to the second ones, with so many brackets opened, and finds no
comment. -/
def Passes (cs : List Char) (opened : Int) (rest : List Char) : Prop :=
  ∃ steps, steps + rest.length ≤ cs.length ∧ ∀ fuel line column s, ∃ column',
    scanRest (fuel + steps) line column s cs =
      scanRest fuel line column' { s with balance := s.balance + opened } rest

theorem Passes.trans {cs cs' cs'' : List Char} {opened opened' : Int} (h : Passes cs opened cs')
    (h' : Passes cs' opened' cs'') : Passes cs (opened + opened') cs'' := by
  obtain ⟨steps, hsteps, hscan⟩ := h
  obtain ⟨steps', hsteps', hscan'⟩ := h'
  refine ⟨steps' + steps, by omega, fun fuel line column s => ?_⟩
  obtain ⟨column', hcolumn'⟩ := hscan (fuel + steps') line column s
  obtain ⟨column'', hcolumn''⟩ := hscan' fuel line column' { s with balance := s.balance + opened }
  refine ⟨column'', ?_⟩
  rw [← Nat.add_assoc, hcolumn', hcolumn'', Int.add_assoc]

theorem Passes.refl (cs : List Char) : Passes cs 0 cs :=
  ⟨0, by omega, fun fuel line column s => ⟨column, by rw [Int.add_zero]; rfl⟩⟩

/-- A character that means something to the scan. -/
def marks : List Char := ['#', '\'', '"', '\\', '(', '[', '\x7b', ')', ']', '\x7d']

theorem passes_char {c : Char} (hc : c ∉ marks) (cs : List Char) : Passes (c :: cs) 0 cs := by
  simp only [marks, List.mem_cons, List.not_mem_nil, or_false, not_or] at hc
  refine ⟨1, by rw [List.length_cons, Nat.add_comm], fun fuel line column s => ⟨column + 1, ?_⟩⟩
  rw [scanRest]
  simp [hc]

theorem passes_chars {cs : List Char} (h : ∀ c ∈ cs, c ∉ marks) (rest : List Char) : Passes (cs ++ rest) 0 rest := by
  induction cs with
  | nil => exact .refl rest
  | cons c cs ih =>
    rw [List.forall_mem_cons] at h
    exact (passes_char h.1 _).trans (ih h.2)

theorem passes_opening (b : Token.Bracket) (cs : List Char) : Passes (b.opening :: cs) 1 cs := by
  refine ⟨1, by rw [List.length_cons, Nat.add_comm], fun fuel line column s => ⟨column + 1, ?_⟩⟩
  rw [scanRest]
  cases b <;> simp [Token.Bracket.opening]

theorem passes_closing (b : Token.Bracket) (cs : List Char) : Passes (b.closing :: cs) (-1) cs := by
  refine ⟨1, by rw [List.length_cons, Nat.add_comm], fun fuel line column s => ⟨column + 1, ?_⟩⟩
  rw [scanRest]
  cases b <;> simp [Token.Bracket.closing, Int.sub_eq_add_neg]

/-- A string ends at the first bare quote. -/
theorem afterShort_of_shielded {quote : Char} {cs : List Char} (hq : Text.IsQuote quote) (h : Text.Shielded quote cs)
    (rest : List Char) : afterShort false quote (cs ++ quote :: rest) = .closed rest := by
  induction h with
  | nil =>
    rw [List.nil_append, afterShort, if_pos rfl]
    all_goals
      intros
      exact hq.ne_backslash ‹_›
  | plain hc hquote hslash h ih =>
    rw [List.cons_append, afterShort, if_neg hquote, if_neg (by simp [hc.ne_newline]), ih]
    all_goals
      intros
      exact hslash ‹_›
  | escaped hc h ih =>
    rw [List.cons_append, List.cons_append, afterShort, if_neg hc.ne_newline, ih]
    · intros
      exact hc.ne_newline ‹_›
    · intros
      exact hc.ne_return ‹_›

theorem passes_quoted (t : Text) {rest : List Char} (hrest : Ends rest) : Passes (t.quoted.toList ++ rest) 0 rest := by
  have hq := Text.isQuote_quoteFor t
  have hshielded := Text.shielded_quotedBody hq t
  rw [Token.toList_quoted]
  generalize Text.quoteFor t = q at hq hshielded ⊢
  generalize Text.quotedBody q t = body at hshielded ⊢
  have hshort := Token.isPrefixOf_eq_false_of_shielded hq hshielded hrest
  have hclosed := afterShort_of_shielded hq hshielded rest
  rw [List.cons_append, List.append_assoc, List.singleton_append]
  refine ⟨1, by simp only [List.length_cons, List.length_append]; omega, fun fuel line column s =>
    ⟨column + ((q :: (body ++ q :: rest)).length - rest.length), ?_⟩⟩
  have hsign : q ≠ '#' := by rcases hq with rfl | rfl <;> decide
  have hquote : (q = '\'' || q = '"') = true := by rcases hq with rfl | rfl <;> rfl
  rw [scanRest]
  simp only [hsign, hquote, hshort, hclosed, Bool.false_eq_true, if_false, if_true, Int.add_zero]

theorem not_mem_marks_of_isWordPart {c : Char} (h : Numeral.isWordPart c) : c ∉ marks := by
  have hall : (marks.all fun d => !Numeral.isWordPart d) = true := by decide
  intro hc
  have hnot := List.all_eq_true.1 hall c hc
  simp [h] at hnot

/-- A piece is passed over, whatever follows that does not go on with it. -/
theorem passes_of_spelled {n : Nat} {cs : List Char} {ks : List TokenKind} (h : Spelled n cs ks) (rest : List Char)
    (hrest : Ends rest) : Passes (cs ++ rest) 0 rest := by
  -- a bracket and the one that closes it leave the balance as it was
  have haround (b : Token.Bracket) {cs : List Char} (hinner : ∀ rest, Ends rest → Passes (cs ++ rest) 0 rest)
      (rest : List Char) : Passes (b.around cs ++ rest) 0 rest := by
    rw [Token.Bracket.around, List.cons_append, List.append_assoc, List.singleton_append]
    exact (passes_opening b _).trans ((hinner _ (b.ends_closing rest)).trans (passes_closing b rest))
  induction h generalizing rest with
  | word h => exact passes_chars (fun c hc => not_mem_marks_of_isWordPart (h.isWordPart c hc)) rest
  | quoted t => exact passes_quoted t hrest
  | bracketed b h ih => exact haround b ih rest
  | applied b h h' ih ih' =>
    rw [List.append_assoc]
    exact (ih _ (b.ends_opening _)).trans (haround b ih' rest)
  | separated s h h' ih ih' =>
    have hall : (s.chars.all fun c => !marks.contains c) = true := by cases s <;> decide
    have hchars : ∀ c ∈ s.chars, c ∉ marks := by simpa using hall
    rw [List.append_assoc, List.append_assoc]
    exact (ih _ (s.ends _)).trans ((passes_chars hchars _).trans (ih' rest hrest))
  | starred h ih =>
    have hstar : '*' ∉ marks := by decide
    exact (passes_char hstar _).trans ((passes_char hstar _).trans (ih rest hrest))

/-- What is on one line is cut into no more lines. -/
theorem keepingBreaks_of_isInline {cs : List Char} (h : ∀ c ∈ cs, IsInline c) (hne : cs ≠ []) :
    Text.Lines.keepingBreaks cs = [cs] := by
  induction cs with
  | nil => exact absurd rfl hne
  | cons c cs ih =>
    rw [List.forall_mem_cons] at h
    rw [Text.Lines.keepingBreaks, h.1.unbroken]
    cases cs with
    | nil => rfl
    | cons d cs => rw [ih h.2 (List.cons_ne_nil d cs)]; rfl

/-- The scan finds no comment in a text of the grammar, and ends well. -/
theorem scan_eq_ok_nil {n : Nat} {cs : List Char} {ks : List TokenKind} (h : Spelled n cs ks) : scan cs = .ok [] := by
  obtain ⟨steps, hsteps, hscan⟩ := passes_of_spelled h [] (by simp [Ends])
  obtain ⟨c, cs, rfl, hc⟩ := h.exists_cons
  have hlines := keepingBreaks_of_isInline h.isInline (List.cons_ne_nil c cs)
  have hlayout := hc.layout
  simp only [List.mem_cons, List.not_mem_nil, or_false, not_or] at hlayout
  have hmeasure : measure 0 0 (c :: cs) = (0, 0, c :: cs) := by
    rw [measure] <;> simp_all
  have hrest : (scanRest ((c :: cs).length + 1) 1 0 ⟨[0], 0, false, none⟩ (c :: cs)) =
      ([], ⟨[0], 0, false, none⟩) := by
    obtain ⟨fuel, hfuel⟩ : ∃ fuel, (c :: cs).length + 1 = fuel + 1 + steps := by
      refine ⟨(c :: cs).length - steps, ?_⟩
      simp only [List.append_nil, List.length_nil] at hsteps
      omega
    obtain ⟨column, hcolumn⟩ := hscan (fuel + 1) 1 0 ⟨[0], 0, false, none⟩
    rw [List.append_nil] at hcolumn
    rw [hfuel, hcolumn, scanRest]
    rfl
  rw [List.length_cons] at hrest
  have hline : scanLine 1 (c :: cs) ⟨[0], 0, false, none⟩ = .ok ([], some ⟨[0], 0, false, none⟩) := by
    simp [scanLine, hmeasure, hlayout, hc.inline.ne_return, settle, hrest]
  rw [scan, hlines, scanLines, hline]
  rfl

end Comment

/-- A text of the grammar that can be parsed is read as what it is parsed to. -/
theorem Tree.read_of_parse {n : Nat} {code : String} {ks : List TokenKind} {t : Tree}
    (h : Token.Spelled n code.toList ks) (hparse : parse code.toList = .ok t) : read code = .ok t := by
  have hnull : code.toList.contains '\x00' = false := by
    rw [Bool.eq_false_iff]
    exact fun hnull => (h.isInline _ (List.contains_iff_mem.1 hnull)).ne_null rfl
  refine read_eq_ok_iff.2 ⟨hnull, t, [], hparse, ?_, rfl⟩
  rw [readComments, Comment.scan_eq_ok_nil h]
  rfl

end Crosswalk

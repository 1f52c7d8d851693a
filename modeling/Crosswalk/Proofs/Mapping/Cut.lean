import Crosswalk.Proofs.Mapping.Fault

/-!
# How tokens cut up a mapping

The tokens of a mapping are the text of it again: each one is the text at its place, they stand one behind the other,
and what stands between them is blank. A word is as long as it can be on either side, and a token knows whether a blank
stands right before it. `Cut` says so of a text and some tokens without a word on how the tokens were found, and
`tokens_cut` that the tokens of every text are so.
-/

namespace Crosswalk
namespace Mapping

/-- The characters that a kind of token is made of. -/
def TokenKind.Holds : TokenKind → CodePoint → Prop
  | .identifier, c => ∃ ch : Char, c = .ofChar ch ∧ (ch.isAlphanum ∨ ch = '$' ∨ ch = '_')
  | .operator, c => ∃ ch : Char, c = .ofChar ch ∧ ch ∈ ['=', '>', '@', '%']
  | .comma, c => c = .ofChar ','
  | .unknown, c => ∀ ch : Char, c = .ofChar ch →
    ¬ ch.isAlphanum ∧ ch ∉ ['$', '_', '=', '>', '@', '%', ',']

/-- A token as it stands in a text in which the one before it ends at the column `last`. -/
structure Stands (spec : Text) (last : Nat) (t : Token) : Prop where
  behind : last ≤ t.column
  inside : t.column < t.stop ∧ t.stop ≤ spec.length
  text : spec.extract t.column t.stop = t.text
  /-- It is spaced if the character right before it is blank, -/
  spaced : t.isSpaced = true ↔ ∃ c ∈ (spec.take t.column).getLast?, c.isBlank = true
  /-- and that is so if it does not begin where the one before it ends. -/
  parted : t.isSpaced = true ↔ t.column ≠ last
  /-- A word cannot be made longer on either side. -/
  word : t.kind = .identifier → IsWord t.text ∧
    (∀ c ∈ (spec.take t.column).getLast?, ¬ TokenKind.identifier.Holds c) ∧
    ∀ c ∈ (spec.drop t.stop).head?, ¬ TokenKind.identifier.Holds c
  symbol : t.kind ≠ .identifier → ∃ c, t.text = [c] ∧ t.kind.Holds c

/-- Where the last of some tokens ends. Without any, that is the column given. -/
def lastStop (column : Nat) (ts : List Token) : Nat := (ts.getLast?.map Token.stop).getD column

/-- The tokens are what a text is made of besides blanks. -/
structure Cut (spec : Text) (ts : List Token) : Prop where
  stands : ∀ before t after, ts = before ++ t :: after → Stands spec (lastStop 0 before) t
  apart : ts.Pairwise fun t u => t.stop ≤ u.column
  covered : ∀ i (h : i < spec.length), spec[i].isBlank = false ↔ ∃ t ∈ ts, t.column ≤ i ∧ i < t.stop
  separate : ∀ before t u after, ts = before ++ t :: u :: after →
    t.kind = .identifier → u.kind = .identifier → u.isSpaced = true

/-! ## Characters -/

theorem holds_identifier {c : CodePoint} : TokenKind.identifier.Holds c ↔ isWordPart c := (isWordPart_iff c).symm

theorem holds_operator {c : CodePoint} : TokenKind.operator.Holds c ↔ (Mode.ofOperator? [c]).isSome := by
  constructor
  · rintro ⟨ch, rfl, hch⟩
    simp only [List.mem_cons, List.not_mem_nil, or_false] at hch
    rcases hch with rfl | rfl | rfl | rfl <;> decide
  · intro h
    obtain ⟨m, hm⟩ := Option.isSome_iff_exists.1 h
    obtain rfl : c = m.operator := List.singleton_inj.1 (eq_operator_of_ofOperator? hm)
    cases m <;> exact ⟨_, rfl, by decide⟩

/-- A character is of the kind that it is told to be. -/
theorem holds_kindOf (c : CodePoint) : (kindOf c).Holds c := by
  unfold kindOf
  split
  · exact holds_identifier.2 ‹_›
  · rename_i hword
    split
    · exact holds_operator.2 ‹_›
    · rename_i hoperator
      split
      · assumption
      · rename_i hcomma
        rintro ch rfl
        simp only [isWordPart_ofChar, not_or] at hword
        have hnot : ch ∉ ['=', '>', '@', '%'] := fun h => hoperator (holds_operator.1 ⟨ch, rfl, h⟩)
        have : ch ≠ ',' := fun h => hcomma (congrArg CodePoint.ofChar h)
        refine ⟨hword.1, ?_⟩
        simp_all

/-! ## Tokens behind a text -/

variable {column : Nat} {spaced : Bool} {spec done : Text} {t : Token} {ts : List Token}

/-- No word goes on from one text into the other. -/
def Seam (done spec : Text) : Prop :=
  ∀ c ∈ done.getLast?, ∀ d ∈ spec.head?, isWordPart c = true → isWordPart d = false

/-- The text ends where a token does, or is empty. -/
structure Closed (done spec : Text) : Prop where
  unblank : ∀ c ∈ done.getLast?, c.isBlank = false
  seam : Seam done spec

theorem getLast?_append_blank {w : Text} (hw : w.isBlank) (hne : w ≠ []) (done : Text) :
    ∃ c ∈ (done ++ w).getLast?, c.isBlank = true := by
  refine ⟨w.getLast hne, ?_, List.all_eq_true.1 hw _ (List.getLast_mem hne)⟩
  rw [List.getLast?_append_of_ne_nil _ hne, List.getLast?_eq_some_getLast hne]
  rfl

/-- Behind a token a text is closed again. -/
theorem Token.IsLexeme.closed (ht : t.IsLexeme) {rest : Text} (hmax : t.kind = .identifier → EndsWord rest)
    (done : Text) : Closed (done ++ t.text) rest := by
  obtain ⟨c, cs, htext, -, hblank⟩ := ht.exists_cons
  have hne : t.text ≠ [] := htext ▸ List.cons_ne_nil c cs
  have hlast : (done ++ t.text).getLast? = some (t.text.getLast hne) := by
    rw [List.getLast?_append_of_ne_nil _ hne, List.getLast?_eq_some_getLast hne]
  constructor
  · intro d hd
    rw [hlast, Option.mem_some_iff] at hd
    exact hd ▸ hblank _ (List.getLast_mem hne)
  · intro d hd e he hword
    rw [hlast, Option.mem_some_iff] at hd
    by_cases hkind : t.kind = .identifier
    · exact hmax hkind e he
    · obtain ⟨s, hs, hsymbol, -⟩ := ht.symbol hkind
      simp only [hs, List.getLast_singleton] at hd
      exact absurd (hsymbol ▸ kindOf_eq_identifier.2 (hd ▸ hword)) hkind

/-- A token behind a closed text and some blanks stands where it says. -/
theorem Closed.stands {w rest : Text} (h : Closed done (w ++ (t.text ++ rest))) (hdone : done.length = column)
    (hw : w.isBlank) (hcolumn : t.column = column + w.length) (hspaced : t.isSpaced = !w.isEmpty)
    (ht : t.IsLexeme) (hmax : t.kind = .identifier → EndsWord rest) :
    Stands (done ++ (w ++ (t.text ++ rest))) column t := by
  obtain ⟨c, cs, htext, hkindOf, hblank⟩ := ht.exists_cons
  have hpos : 0 < t.text.length := by rw [htext, List.length_cons]; omega
  have hlength : (done ++ w).length = t.column := by rw [List.length_append, hdone, hcolumn]
  have hassoc : done ++ (w ++ (t.text ++ rest)) = (done ++ w) ++ (t.text ++ rest) := by rw [List.append_assoc]
  have htake : (done ++ (w ++ (t.text ++ rest))).take t.column = done ++ w := by
    rw [hassoc, ← hlength, List.take_left]
  have hdrop : (done ++ (w ++ (t.text ++ rest))).drop t.column = t.text ++ rest := by
    rw [hassoc, ← hlength, List.drop_left]
  have hrest : (done ++ (w ++ (t.text ++ rest))).drop t.stop = rest := by
    rw [Token.stop, ← List.drop_drop, hdrop, List.drop_left]
  have hempty : t.isSpaced = true ↔ w ≠ [] := by simp [hspaced]
  have hsome : t.isSpaced = true ↔ ∃ c ∈ (done ++ w).getLast?, c.isBlank = true := by
    rw [hempty]
    refine ⟨fun hne => getLast?_append_blank hw hne done, ?_⟩
    rintro ⟨d, hd, hdblank⟩ rfl
    rw [List.append_nil] at hd
    simp [h.unblank d hd] at hdblank
  refine ⟨by omega, ⟨by rw [Token.stop]; omega, ?_⟩, ?_, htake ▸ hsome, ?_, fun hkind => ?_, fun hkind => ?_⟩
  · rw [hassoc, List.length_append, hlength, List.length_append, Token.stop]
    omega
  · rw [List.extract_eq_take_drop, hdrop, Token.stop, Nat.add_sub_cancel_left, List.take_left]
  · rw [hempty, ne_eq, ← List.length_eq_zero_iff]
    omega
  · rw [htake, hrest]
    simp only [holds_identifier]
    refine ⟨ht.word hkind, fun d hd hword => ?_, fun d hd => by simp [hmax hkind d hd]⟩
    -- what stands before a word is blank, or the end of what is closed
    cases w with
    | nil =>
      rw [List.append_nil] at hd
      have hc : isWordPart c := kindOf_eq_identifier.1 (hkindOf.trans hkind)
      have hnot := h.seam d hd c (by simp [htext]) hword
      simp [hc] at hnot
    | cons e w =>
      obtain ⟨d', hd', hdblank⟩ := getLast?_append_blank hw (List.cons_ne_nil e w) done
      obtain rfl : d = d' := Option.mem_unique hd hd'
      simp [isWordPart_of_isBlank hdblank] at hword
  · obtain ⟨d, hd, hdkind, -⟩ := ht.symbol hkind
    exact ⟨d, hd, hdkind ▸ holds_kindOf d⟩

/-! ## All tokens of a text -/

/-- Each token stands behind the one before it. -/
theorem Spells.stands (h : Spells column false spec ts) (hdone : done.length = column) (hclosed : Closed done spec)
    {before after : List Token} (hts : ts = before ++ t :: after) :
    Stands (done ++ spec) (lastStop column before) t := by
  -- what is closed grows by a token at a time
  generalize hspaced : false = spaced at h
  induction h generalizing done before with
  | blank => simp at hts
  | token column spaced w rest u us hw hcolumn hisSpaced hlexeme hmax hrest ih =>
    subst hspaced
    cases before with
    | nil =>
      obtain ⟨rfl, -⟩ := List.cons.inj hts
      exact hclosed.stands hdone hw hcolumn (by simpa using hisSpaced) hlexeme hmax
    | cons v before =>
      obtain ⟨rfl, hus⟩ := List.cons.inj hts
      have hlength : (done ++ w ++ u.text).length = u.stop := by
        rw [List.length_append, List.length_append, hdone, Token.stop, hcolumn]
      have hstands := ih hlength (hlexeme.closed hmax _) hus rfl
      have hlast : lastStop column (u :: before) = lastStop u.stop before := by
        cases before with
        | nil => rfl
        | cons v vs => simp [lastStop, List.getLast?_cons]
      rw [hlast]
      simpa [List.append_assoc] using hstands

/-- The tokens stand one behind the other between the two ends of the text. -/
theorem Spells.apart (h : Spells column spaced spec ts) :
    (∀ t ∈ ts, column ≤ t.column) ∧ ts.Pairwise fun t u => t.stop ≤ u.column := by
  induction h with
  | blank => simp
  | token column spaced w rest t ts hw hcolumn hspaced hlexeme hmax hrest ih =>
    have hstop : t.column ≤ t.stop := Nat.le_add_right _ _
    refine ⟨List.forall_mem_cons.2 ⟨by omega, fun u hu => ?_⟩, List.pairwise_cons.2 ⟨ih.1, ih.2⟩⟩
    have := ih.1 u hu
    omega

/-- A character is blank unless a token stands over it. -/
theorem Spells.covered (h : Spells column spaced spec ts) {i : Nat} (hi : i < spec.length) :
    spec[i].isBlank = false ↔ ∃ t ∈ ts, t.column ≤ column + i ∧ column + i < t.stop := by
  induction h generalizing i with
  | blank column spaced w hw => simp [List.all_eq_true.1 hw _ (List.getElem_mem hi)]
  | token column spaced w rest t ts hw hcolumn hspaced hlexeme hmax hrest ih =>
    obtain ⟨-, -, -, -, hblank⟩ := hlexeme.exists_cons
    have hstop : t.stop = column + w.length + t.text.length := by rw [Token.stop, hcolumn]
    by_cases hleft : i < w.length
    · -- among the blanks before the token
      have hnone : ¬ ∃ u ∈ t :: ts, u.column ≤ column + i ∧ column + i < u.stop := by
        rintro ⟨u, hu, hbegin, -⟩
        rcases List.mem_cons.1 hu with rfl | hu
        · omega
        · have := hrest.apart.1 u hu
          omega
      have hchar := List.all_eq_true.1 hw _ (List.getElem_mem hleft)
      rw [List.getElem_append_left hleft]
      simp only [hchar, hnone, Bool.true_eq_false]
    · by_cases hmid : i < w.length + t.text.length
      · -- in the token
        have hchar := hblank _ (List.getElem_mem (show i - w.length < t.text.length by omega))
        rw [List.getElem_append_right (by omega), List.getElem_append_left (by omega)]
        exact iff_of_true hchar ⟨t, List.mem_cons_self, by omega, by omega⟩
      · -- behind it
        have hlen : i - w.length - t.text.length < rest.length := by
          simp only [List.length_append] at hi
          omega
        have hshift : column + i = t.stop + (i - w.length - t.text.length) := by omega
        rw [List.getElem_append_right (by omega), List.getElem_append_right (by omega), ih hlen, hshift]
        simp only [List.mem_cons, exists_eq_or_imp]
        exact ⟨.inr, fun h => h.resolve_left fun hover => by omega⟩

/-- The tokens of a text stand in their order where they say they do, and what they leave out is blank. A word among
them cannot be made longer, and two words in a row have a blank between them. -/
theorem tokens_cut (spec : Text) : Cut spec (tokens spec) := by
  have hspells : Spells 0 false spec (tokens spec) := spells_tokensFrom 0 false spec
  have hclosed : Closed [] spec := ⟨by simp, by simp [Seam]⟩
  have hstands (before : List Token) (t : Token) (after : List Token) (h : tokens spec = before ++ t :: after) :
      Stands spec (lastStop 0 before) t := hspells.stands rfl hclosed h
  refine ⟨hstands, hspells.apart.2, fun i hi => ?_, fun before t u after h ht hu => ?_⟩
  · simpa using hspells.covered hi
  · have hstart := hstands before t (u :: after) h
    have hnext := hstands (before ++ [t]) u after (by simpa using h)
    simp only [lastStop, List.getLast?_concat, Option.map_some, Option.getD_some] at hnext
    rw [hnext.parted]
    intro heq
    -- else the first word would go on with the second one
    obtain ⟨c, cs, htext⟩ := List.exists_cons_of_ne_nil (hnext.word hu).1.1
    have hhead : (spec.drop t.stop).head? = some c := by
      have hextract := hnext.text
      rw [heq, List.extract_eq_take_drop, htext] at hextract
      rw [← List.take_append_drop (u.stop - t.stop) (spec.drop t.stop), hextract]
      rfl
    exact (hstart.word ht).2.2 c hhead ((hnext.word hu).1.2 c (by simp [htext]))

end Mapping
end Crosswalk

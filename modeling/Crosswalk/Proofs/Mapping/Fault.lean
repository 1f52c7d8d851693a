import Crosswalk.Proofs.Mapping.Grammar
import Mathlib.Data.List.DropRight

/-!
# Where a mapping is refused

The column of a malformed mapping has the correct prefix property: what stands before it can still be completed to a
mapping that is accepted, and what stands up to the end of the token there can not.

The reader is an automaton over tokens, `Stage.Fits` and `Stage.after`, and acceptance is a run of it to the end,
`Stage.Accepts`. From every stage there is a text that completes the field at hand. The main statement is
`fields_refuses_at`.
-/

namespace Crosswalk
namespace Mapping

/-! ## The reader as an automaton -/

/-- The token is one that the stage goes on with. -/
def Stage.Fits (stage : Stage) (t : Token) : Prop := problem? stage.expected t = none ∧ stage.HasMode

/-- The stage after a token that fits. -/
def Stage.after : Stage → Token → Stage
  | .nothing, t => .first t
  | .first a, t => .joined a t
  | .joined _ _, _ => .whole
  | .whole, _ => .nothing

/-- From the stage on, the tokens are read to the end. -/
def Stage.Accepts : Stage → List Token → Prop
  | stage, [] => stage = .whole
  | stage, t :: ts => stage.Fits t ∧ (stage.after t).Accepts ts

variable {stop column : Nat} {spaced : Bool} {stage : Stage} {spec : Text} {t : Token} {ts : List Token}

theorem exists_parseFrom_eq_ok_iff : (∃ fs, parseFrom stop stage ts = .ok fs) ↔ stage.Accepts ts := by
  induction ts generalizing stage with
  | nil => cases stage <;> simp [parseFrom, Stage.Accepts]
  | cons t ts ih =>
    rw [Stage.Accepts]
    cases stage with
    | nothing =>
      simp only [parseFrom_nothing_eq_ok, Stage.Fits, Stage.after, Stage.expected, problem?_none_eq_none, ← ih]
      simp [Stage.HasMode]
    | first a =>
      simp only [parseFrom_first_eq_ok, Stage.Fits, Stage.after, Stage.expected, problem?_eq_none, ← ih]
      simp [Stage.HasMode]
    | joined a o =>
      simp only [parseFrom_joined_eq_ok, Stage.Fits, Stage.after, Stage.expected, problem?_eq_none, ← ih]
      constructor
      · rintro ⟨fs, b, rest, m, gs, heq, hb, hm, -, hgs⟩
        cases heq
        exact ⟨⟨hb, by simp [Stage.HasMode, hm]⟩, gs, hgs⟩
      · rintro ⟨⟨hb, hm⟩, gs, hgs⟩
        obtain ⟨m, hm⟩ := Option.isSome_iff_exists.1 hm
        exact ⟨_, t, ts, m, gs, rfl, hb, hm, rfl, hgs⟩
    | whole =>
      simp only [parseFrom_whole_eq_ok, Stage.Fits, Stage.after, Stage.expected, problem?_none_eq_none, ← ih]
      simp [Stage.HasMode]

theorem of_malformed_nil {problem : Problem} {c : Nat}
    (h : parseFrom stop stage [] = .error (.malformed problem c)) : c = stop := by
  cases stage <;> simp [parseFrom] at h <;> exact h.2.symm

/-- A mapping is refused at a token that does not fit, or after one that fits. -/
theorem of_malformed_cons {problem : Problem} {c : Nat}
    (h : parseFrom stop stage (t :: ts) = .error (.malformed problem c)) :
    stage.Fits t ∧ parseFrom stop (stage.after t) ts = .error (.malformed problem c) ∨
      ¬ stage.Fits t ∧ c = t.column := by
  unfold Stage.Fits
  cases hproblem : problem? stage.expected t with
  | some found =>
    refine .inr ⟨by simp, ?_⟩
    cases stage with
    | whole =>
      have hkind : t.kind ≠ .comma := fun hk => by
        simp [Stage.expected, problem?_none_eq_none.2 hk] at hproblem
      rw [parseFrom, if_neg hkind] at h
      cases h
      rfl
    | _ =>
      rw [parseFrom.eq_def] at h
      simp only [hproblem] at h
      cases h
      rfl
  | none =>
    left
    cases stage with
    | whole =>
      rw [parseFrom, if_pos (problem?_none_eq_none.1 hproblem)] at h
      exact ⟨⟨rfl, trivial⟩, h⟩
    | joined a o =>
      rw [parseFrom.eq_def] at h
      simp only [hproblem] at h
      cases hm : Mode.ofOperator? o.text with
      | none => simp [hm] at h
      | some m =>
        cases hrest : parseFrom stop .whole ts with
        | ok gs =>
          simp only [hm, hrest] at h
          cases h
        | error e =>
          simp only [hm, hrest] at h
          cases h
          exact ⟨⟨rfl, by simp [Stage.HasMode, hm]⟩, hrest⟩
    | _ =>
      rw [parseFrom.eq_def] at h
      simp only [hproblem] at h
      exact ⟨⟨rfl, trivial⟩, h⟩

/-- Whether a token fits depends on its kind and on where it stands. -/
theorem Stage.Fits.congr {u : Token} (hkind : u.kind = t.kind) (hcolumn : u.column = t.column)
    (hspaced : u.isSpaced = t.isSpaced) (h : stage.Fits u) : stage.Fits t := by
  refine ⟨?_, h.2⟩
  have h := h.1
  cases stage with
  | nothing => exact problem?_none_eq_none.2 (hkind ▸ problem?_none_eq_none.1 h)
  | whole => exact problem?_none_eq_none.2 (hkind ▸ problem?_none_eq_none.1 h)
  | first a =>
    have h := problem?_eq_none.1 h
    exact problem?_eq_none.2 ⟨hkind ▸ h.kind, hspaced ▸ h.unspaced, hcolumn ▸ h.column⟩
  | joined a o =>
    have h := problem?_eq_none.1 h
    exact problem?_eq_none.2 ⟨hkind ▸ h.kind, hspaced ▸ h.unspaced, hcolumn ▸ h.column⟩

theorem Stage.Fits.kind (h : stage.Fits t) : t.kind = stage.expected.1 := by
  by_contra hkind
  have h := h.1
  rw [problem?, if_pos hkind] at h
  cases h

/-! ## Texts in front of others -/

theorem Token.IsLexeme.exists_cons (ht : t.IsLexeme) :
    ∃ c cs, t.text = c :: cs ∧ kindOf c = t.kind ∧ ∀ d ∈ t.text, d.isBlank = false := by
  by_cases hkind : t.kind = .identifier
  · obtain ⟨hne, hall⟩ := (isWord_iff _).1 (ht.word hkind)
    obtain ⟨c, cs, htext⟩ := List.exists_cons_of_ne_nil hne
    refine ⟨c, cs, htext, ?_, fun d hd => ?_⟩
    · rw [hkind, kindOf_eq_identifier]
      exact hall c (htext ▸ List.mem_cons_self)
    · by_contra hblank
      have := isWordPart_of_isBlank (by simpa using hblank)
      simp [hall d hd] at this
  · obtain ⟨c, htext, hc, hblank⟩ := ht.symbol hkind
    exact ⟨c, [], htext, hc, by simp [htext, hblank]⟩

/-- The kind of the first token shows in its first character. -/
theorem exists_tokensFrom_cons (column : Nat) (spaced : Bool) {c : CodePoint} (hc : c.isBlank = false) (rest : Text) :
    ∃ t ts, tokensFrom column spaced (c :: rest) = t :: ts ∧ t.kind = kindOf c ∧ t.column = column ∧
      t.isSpaced = spaced := by
  rw [tokensFrom, if_neg (by simp [hc])]
  by_cases hword : isWordPart c
  · rw [if_pos hword]
    exact ⟨_, _, rfl, (kindOf_eq_identifier.2 hword).symm, rfl, rfl⟩
  · rw [if_neg hword]
    exact ⟨_, _, rfl, rfl, rfl, rfl⟩

/-- The text goes on with blanks and the token. -/
structure Begins (column : Nat) (spaced : Bool) (w : Text) (t : Token) : Prop where
  blank : w.isBlank
  column : t.column = column + w.length
  spaced : t.isSpaced = (spaced || !w.isEmpty)
  lexeme : t.IsLexeme

namespace Begins

variable {w : Text} (h : Begins column spaced w t)
include h

theorem tokensFrom_append {rest : Text} (hmax : t.kind = .identifier → EndsWord rest) :
    tokensFrom column spaced (w ++ (t.text ++ rest)) = t :: tokensFrom t.stop false rest := by
  rw [tokensFrom_blank_append _ _ _ _ h.blank, ← h.column, ← h.spaced,
    tokensFrom_lexeme_append t rest h.lexeme hmax]

/-- Whatever follows, a token that does not fit is not read. A word may go on, but it stays a word. -/
theorem not_accepts (hfits : ¬ stage.Fits t) (rest : Text) :
    ¬ stage.Accepts (tokensFrom column spaced (w ++ (t.text ++ rest))) := by
  obtain ⟨c, cs, htext, hkind, hblank⟩ := h.lexeme.exists_cons
  have hc : c.isBlank = false := hblank c (htext ▸ List.mem_cons_self)
  rw [tokensFrom_blank_append _ _ _ _ h.blank, ← h.column, ← h.spaced, htext, List.cons_append]
  obtain ⟨u, us, hu, hukind, hucolumn, huspaced⟩ := exists_tokensFrom_cons t.column t.isSpaced hc (cs ++ rest)
  rw [hu, Stage.Accepts]
  exact fun haccepts => hfits (haccepts.1.congr (hukind.trans hkind) hucolumn huspaced)

/-- No blank at the end of a text is left by a token. -/
theorem rdropWhile_append (seen : Text) :
    (w ++ (t.text ++ seen)).rdropWhile CodePoint.isBlank = w ++ (t.text ++ seen.rdropWhile CodePoint.isBlank) := by
  obtain ⟨c, cs, htext, -, hblank⟩ := h.lexeme.exists_cons
  have hne : t.text ≠ [] := htext ▸ List.cons_ne_nil c cs
  induction seen using List.reverseRecOn with
  | nil =>
    rw [List.rdropWhile_nil, List.append_nil, List.rdropWhile_eq_self_iff]
    intro hl
    rw [List.getLast_append_of_ne_nil hl hne]
    simp [hblank _ (List.getLast_mem hne)]
  | append_singleton seen d ih =>
    have hassoc : w ++ (t.text ++ (seen ++ [d])) = w ++ (t.text ++ seen) ++ [d] := by simp
    rw [hassoc, List.rdropWhile_concat, List.rdropWhile_concat, ih]
    split <;> simp

end Begins

/-- Where no word is expected, a text that is read does not begin with a part of one. -/
theorem endsWord_of_accepts (hkind : stage.expected.1 ≠ .identifier)
    (h : stage.Accepts (tokensFrom column spaced spec)) : EndsWord spec := by
  intro c hc
  obtain ⟨rest, rfl⟩ := List.head?_eq_some_iff.1 (Option.mem_def.1 hc)
  by_contra hword
  have hword : isWordPart c := by simpa using hword
  have hblank : c.isBlank = false := by
    by_contra hblank
    simp [isWordPart_of_isBlank (by simpa using hblank)] at hword
  obtain ⟨t, ts, hts, ht, -, -⟩ := exists_tokensFrom_cons column spaced hblank rest
  rw [hts, Stage.Accepts] at h
  exact hkind (h.1.kind.symm.trans (ht.trans (kindOf_eq_identifier.2 hword)))

/-- After a word no word is expected. -/
theorem Stage.Fits.expected_after (h : stage.Fits t) (ht : t.kind = .identifier) :
    (stage.after t).expected.1 ≠ .identifier := by
  have hkind : .identifier = stage.expected.1 := ht.symm.trans h.kind
  cases stage with
  | nothing | joined => nofun
  | first | whole => cases hkind

/-! ## Completions -/

/-- The stage is one that is reached right before the column. -/
def Stage.Seam : Stage → Nat → Bool → Prop
  | .first a, column, spaced => column = a.stop ∧ spaced = false
  | .joined _ o, column, spaced => column = o.stop ∧ spaced = false ∧ (Mode.ofOperator? o.text).isSome
  | _, _, _ => True

theorem Stage.Fits.seam_after (h : stage.Fits t) (ht : t.IsLexeme) : (stage.after t).Seam t.stop false := by
  cases stage with
  | first a =>
    have hkind : t.kind = .operator := h.kind
    obtain ⟨c, htext, hc, -⟩ := ht.symbol (by simp [hkind])
    exact ⟨rfl, rfl, htext ▸ ofOperator?_isSome_of_kindOf (hc.trans hkind)⟩
  | nothing => exact ⟨rfl, rfl⟩
  | _ => trivial

/-- A text that completes the field at hand. -/
def Stage.completion : Stage → Text
  | .nothing => .ofString "a=b"
  | .first _ => .ofString "=b"
  | .joined _ _ => .ofString "b"
  | .whole => []

private theorem isWord_letter (ch : Char) (h : ch.isAlphanum) : IsWord [.ofChar ch] :=
  ⟨List.cons_ne_nil _ _, by simp only [List.mem_singleton, forall_eq]; exact ⟨ch, rfl, .inl h⟩⟩

theorem accepts_completion (h : stage.Seam column spaced) :
    stage.Accepts (tokensFrom column spaced stage.completion) := by
  -- one stage leads to the next, from the last one back
  have hwhole (n : Nat) : Stage.whole.Accepts (tokensFrom n false []) := by
    rw [tokensFrom, Stage.Accepts]
  have hjoined (a o : Token) (ho : (Mode.ofOperator? o.text).isSome) :
      (Stage.joined a o).Accepts (tokensFrom o.stop false (.ofString "b")) := by
    let b : Token := ⟨.identifier, .ofString "b", o.stop, false⟩
    have hb := tokensFrom_lexeme_append b [] (isLexeme_word (isWord_letter 'b' rfl) _ _) (fun _ => by simp [EndsWord])
    rw [List.append_nil] at hb
    rw [hb, Stage.Accepts]
    exact ⟨⟨problem?_eq_none.2 ⟨rfl, rfl, rfl⟩, ho⟩, hwhole _⟩
  have hfirst (a : Token) : (Stage.first a).Accepts (tokensFrom a.stop false (.ofString "=b")) := by
    let o : Token := ⟨.operator, .ofString "=", a.stop, false⟩
    have hlexeme : o.IsLexeme := isLexeme_symbol (by decide) (by decide) (by decide) _ _
    have ho := tokensFrom_lexeme_append o (.ofString "b") hlexeme (fun h => by cases h)
    have hsplit : Text.ofString "=b" = o.text ++ .ofString "b" := rfl
    rw [hsplit, ho, Stage.Accepts]
    have hmode : (Mode.ofOperator? o.text).isSome := Option.isSome_iff_exists.2 ⟨_, Mode.ofOperator?_operator .direct⟩
    exact ⟨⟨problem?_eq_none.2 ⟨rfl, rfl, rfl⟩, trivial⟩, hjoined a o hmode⟩
  cases stage with
  | whole =>
    rw [Stage.completion, tokensFrom, Stage.Accepts]
  | joined a o =>
    obtain ⟨rfl, rfl, ho⟩ := h
    exact hjoined a o ho
  | first a =>
    obtain ⟨rfl, rfl⟩ := h
    exact hfirst a
  | nothing =>
    let a : Token := ⟨.identifier, .ofString "a", column, spaced⟩
    have hends : EndsWord (.ofString "=b") := fun c hc => by
      obtain rfl : CodePoint.ofChar '=' = c := Option.some.inj hc
      decide
    have ha := tokensFrom_lexeme_append a (.ofString "=b") (isLexeme_word (isWord_letter 'a' rfl) _ _) fun _ => hends
    have hsplit : Text.ofString "a=b" = a.text ++ .ofString "=b" := rfl
    rw [Stage.completion, hsplit, ha, Stage.Accepts]
    exact ⟨⟨problem?_none_eq_none.2 rfl, trivial⟩, hfirst a⟩

/-! ## The correct prefix -/

/-- From a stage on, a text is refused after a part that can be completed: at the end, or at a token with which no
text is accepted. -/
theorem Spells.exists_refused {problem : Problem} {c : Nat} (h : Spells column spaced spec ts)
    (hseam : stage.Seam column spaced)
    (herror : parseFrom (column + spec.length) stage ts = .error (.malformed problem c)) :
    ∃ seen ahead, spec = seen ++ ahead ∧ c = column + seen.length ∧
      (∃ rest, stage.Accepts (tokensFrom column spaced (seen.rdropWhile CodePoint.isBlank ++ rest))) ∧
      (ahead = [] ∨ ∃ t ∈ ts, ∃ after, t.column = c ∧ t.text ≠ [] ∧ ahead = t.text ++ after ∧
        ∀ rest, ¬ stage.Accepts (tokensFrom column spaced (seen ++ (t.text ++ rest)))) := by
  -- a token that fits is passed to what has been seen; the first that does not ends it
  induction h generalizing stage with
  | blank column spaced w hw =>
    refine ⟨w, [], by simp, of_malformed_nil herror, ⟨stage.completion, ?_⟩, .inl rfl⟩
    rw [List.rdropWhile_eq_nil_iff.2 (List.all_eq_true.1 hw), List.nil_append]
    exact accepts_completion hseam
  | token column spaced w rest t ts hw hcolumn hspaced hlexeme hmax hrest ih =>
    have hbegins : Begins column spaced w t := ⟨hw, hcolumn, hspaced, hlexeme⟩
    obtain ⟨d, ds, htext, -⟩ := hlexeme.exists_cons
    have hne : t.text ≠ [] := htext ▸ List.cons_ne_nil d ds
    rcases of_malformed_cons herror with ⟨hfits, herror⟩ | ⟨hfits, rfl⟩
    · have hstop : column + (w ++ (t.text ++ rest)).length = t.stop + rest.length := by
        rw [Token.stop, hcolumn, List.length_append, List.length_append]
        omega
      rw [hstop] at herror
      obtain ⟨seen, ahead, rfl, hc, ⟨more, hmore⟩, hahead⟩ := ih (hfits.seam_after hlexeme) herror
      refine ⟨w ++ (t.text ++ seen), ahead, by simp, ?_, ⟨more, ?_⟩, ?_⟩
      · rw [hc, Token.stop, hcolumn, List.length_append, List.length_append]
        omega
      · rw [hbegins.rdropWhile_append, List.append_assoc, List.append_assoc, hbegins.tokensFrom_append]
        · exact ⟨hfits, hmore⟩
        · exact fun ht => endsWord_of_accepts (hfits.expected_after ht) hmore
      · rcases hahead with rfl | ⟨u, hu, after, hucolumn, hune, rfl, hrefuses⟩
        · exact .inl rfl
        refine .inr ⟨u, List.mem_cons_of_mem t hu, after, hucolumn, hune, rfl, fun more => ?_⟩
        rw [List.append_assoc, List.append_assoc, hbegins.tokensFrom_append]
        · exact fun haccepts => hrefuses more haccepts.2
        · -- what follows the token begins as it did
          intro ht e he
          refine hmax ht e ?_
          cases seen with
          | nil =>
            obtain ⟨f, fs, hf⟩ := List.exists_cons_of_ne_nil hune
            simpa [hf] using he
          | cons f fs => simpa using he
    · exact ⟨w, t.text ++ rest, rfl, hcolumn, ⟨stage.completion, by
        rw [List.rdropWhile_eq_nil_iff.2 (List.all_eq_true.1 hw), List.nil_append]
        exact accepts_completion hseam⟩,
        .inr ⟨t, List.mem_cons_self, rest, rfl, hne, rfl, hbegins.not_accepts hfits⟩⟩

/-! ## Mappings -/

/-- The text can be read as a mapping. -/
def Accepted (spec : Text) : Prop := ∃ fs, fields (some spec) = .ok fs

theorem accepted_iff : Accepted spec ↔ spec.isBlank ∨ Stage.nothing.Accepts (tokens spec) := by
  have hfields : fields (some spec) = (parse spec).mapError (Fault.cause spec) := rfl
  simp only [Accepted, hfields, mapError_eq_ok, parse]
  split
  · rename_i hblank
    simp [hblank]
  · rename_i hblank
    rw [exists_parseFrom_eq_ok_iff]
    simp [hblank]

/-- A mapping that is refused is refused at a column. If a token stands there, then what stands before it is the
beginning of a mapping that is accepted, and no text that goes on up to the end of the token is. If the column is the
end, then the whole is such a beginning. Blanks at the end of what stands before are left aside. -/
theorem fields_refuses_at (spec : Text) (cause : Cause) (h : fields (some spec) = .error cause) :
    ∃ (reason : Text) (column : Nat), cause = .mapping reason spec column ∧ column ≤ spec.length ∧
      (column < spec.length → ∃ t ∈ tokens spec, t.column = column ∧
        (∃ rest, Accepted ((spec.take column).rdropWhile CodePoint.isBlank ++ rest)) ∧
        ∀ rest, ¬ Accepted (spec.take t.stop ++ rest)) ∧
      (column = spec.length → ∃ rest, Accepted (spec.rdropWhile CodePoint.isBlank ++ rest)) := by
  obtain ⟨fault, hparse, rfl⟩ := mapError_eq_error.1 h
  obtain ⟨problem, column, rfl⟩ := malformed_of_parse hparse
  refine ⟨_, column, rfl, ?_⟩
  have herror : parseFrom (0 + spec.length) .nothing (tokens spec) = .error (.malformed problem column) := by
    unfold parse at hparse
    split at hparse
    · cases hparse
    · rwa [Nat.zero_add]
  have hseam : Stage.nothing.Seam 0 false := trivial
  obtain ⟨seen, ahead, rfl, hcolumn, ⟨more, hmore⟩, hahead⟩ :=
    (spells_tokensFrom 0 false spec).exists_refused hseam herror
  rw [Nat.zero_add] at hcolumn
  subst hcolumn
  refine ⟨by simp, fun hlt => ?_, fun heq => ?_⟩
  · rcases hahead with rfl | ⟨t, ht, after, htcolumn, hne, rfl, hrefuses⟩
    · simp at hlt
    refine ⟨t, ht, htcolumn, ⟨more, ?_⟩, fun rest haccepted => ?_⟩
    · rw [List.take_left]
      exact accepted_iff.2 (.inr hmore)
    · have htake : (seen ++ (t.text ++ after)).take t.stop = seen ++ t.text := by
        rw [Token.stop, htcolumn, ← List.append_assoc, ← List.length_append, List.take_left]
      rw [htake, List.append_assoc] at haccepted
      rcases accepted_iff.1 haccepted with hblank | haccepts
      · obtain ⟨d, ds, htext, -, hnot⟩ := ((spells_tokensFrom 0 false _).isLexeme t ht).exists_cons
        have := List.all_eq_true.1 hblank d (by simp [htext])
        simp [hnot d (htext ▸ List.mem_cons_self)] at this
      · exact hrefuses rest haccepts
  · have hnil : ahead = [] := by simpa using heq
    subst hnil
    rw [List.append_nil]
    exact ⟨more, accepted_iff.2 (.inr hmore)⟩

/-- Where a comma is missing, the part before the second field can be completed, and with the next word it can not. -/
theorem fields_refuses_at_missing_comma :
    fields (some (.ofString "a=b c>d")) = .error (Fault.cause (.ofString "a=b c>d")
        (.malformed (.noComma (.ofString "c")) 4)) ∧
      (∃ rest, Accepted (.ofString "a=b" ++ rest)) ∧ ∀ rest, ¬ Accepted (.ofString "a=b c" ++ rest) := by
  have herror : fields (some (.ofString "a=b c>d")) = .error (Fault.cause (.ofString "a=b c>d")
      (.malformed (.noComma (.ofString "c")) 4)) := by
    rw [fields, show parse (.ofString "a=b c>d") = .error (.malformed (.noComma (.ofString "c")) 4) by decide +kernel]
    rfl
  obtain ⟨reason, column, hcause, -, hat, -⟩ := fields_refuses_at _ _ herror
  obtain ⟨-, -, hcolumn⟩ := Cause.mapping.inj hcause
  obtain rfl : column = 4 := by exact_mod_cast hcolumn.symm
  obtain ⟨t, ht, htcolumn, hseen, hrefuses⟩ := hat (by decide)
  have hstop : t.stop = 5 := by
    have hall : ∀ u ∈ tokens (.ofString "a=b c>d"), u.column = 4 → u.stop = 5 := by decide +kernel
    exact hall t ht htcolumn
  rw [hstop] at hrefuses
  exact ⟨herror, hseen, hrefuses⟩

end Mapping
end Crosswalk

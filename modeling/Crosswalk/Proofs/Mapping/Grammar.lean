import Crosswalk.Mapping.Parse
import Crosswalk.Proofs.Except
import Crosswalk.Proofs.Mapping.Spelling

/-!
# The grammar of mappings

`Lists` is the grammar of mappings that are not blank, with the fields that such a mapping writes. The
main statement is that reading accepts just the blank mappings and those of the grammar, gives the fields
that are written, and refuses every other text as a malformed mapping.
-/

namespace Crosswalk
namespace Mapping

/-- A field as it is written: a word, an operator and a word. -/
def Field.written (f : Field) : Text := f.aName ++ f.mode.operator :: f.bName

/-- The text lists the fields: each one stands between blanks, a comma follows each but the last, and
a field's column is the number of characters before it, counted from the column given. -/
inductive Lists : Nat → Text → List Field → Prop
  | last (column : Nat) (before after : Text) (f : Field) (hbefore : before.isBlank)
      (hafter : after.isBlank) (ha : IsWord f.aName) (hb : IsWord f.bName)
      (hcolumn : f.column = column + before.length) :
      Lists column (before ++ f.written ++ after) [f]
  | more (column : Nat) (before after rest : Text) (f : Field) (fs : List Field)
      (hbefore : before.isBlank) (hafter : after.isBlank) (ha : IsWord f.aName) (hb : IsWord f.bName)
      (hcolumn : f.column = column + before.length)
      (hrest : Lists (f.column + f.written.length + after.length + 1) rest fs) :
      Lists column (before ++ f.written ++ after ++ .ofChar ',' :: rest) (f :: fs)

/-! ## What the reader takes -/

/-- The token is of the kind given and follows another one without a blank. -/
structure Follows (kind : TokenKind) (before t : Token) : Prop where
  kind : t.kind = kind
  unspaced : t.isSpaced = false
  column : t.column = before.stop

theorem problem?_eq_none {kind : TokenKind} {before t : Token} :
    problem? (kind, some before) t = none ↔ Follows kind before t := by
  unfold problem?
  constructor
  · intro h
    split at h
    · cases h
    · rename_i hkind
      split at h
      · cases h
      · rename_i hjoin
        simp only [Option.any_some, Bool.or_eq_true, bne_iff_ne, not_or, Bool.not_eq_true] at hjoin
        exact ⟨by simpa using hkind, hjoin.1, by simpa using hjoin.2⟩
  · rintro ⟨hkind, hspaced, hcolumn⟩
    simp [hkind, hspaced, hcolumn]

theorem problem?_none_eq_none {kind : TokenKind} {t : Token} :
    problem? (kind, none) t = none ↔ t.kind = kind := by
  simp [problem?]

variable {stop : Nat} {ts : List Token} {fs : List Field}

/-- Where a field is to begin, reading goes on after an identifier only. -/
theorem parseFrom_nothing_eq_ok :
    parseFrom stop .nothing ts = .ok fs ↔
      ∃ a rest, ts = a :: rest ∧ a.kind = .identifier ∧ parseFrom stop (.first a) rest = .ok fs := by
  cases ts with
  | nil => simp [parseFrom]
  | cons t rest =>
    rw [parseFrom.eq_def]
    dsimp only [Stage.expected]
    split
    · rename_i problem h
      have : ¬ t.kind = .identifier := fun hk => by simp [problem?_none_eq_none.2 hk] at h
      simp [this]
    · rename_i h
      simp [problem?_none_eq_none.1 h]

/-- After the first word, reading goes on after an operator right behind it only. -/
theorem parseFrom_first_eq_ok {a : Token} :
    parseFrom stop (.first a) ts = .ok fs ↔
      ∃ o rest, ts = o :: rest ∧ Follows .operator a o ∧ parseFrom stop (.joined a o) rest = .ok fs := by
  cases ts with
  | nil => simp [parseFrom]
  | cons t rest =>
    rw [parseFrom.eq_def]
    dsimp only [Stage.expected]
    split
    · rename_i problem h
      have : ¬ Follows .operator a t := fun hf => by simp [problem?_eq_none.2 hf] at h
      simp [this]
    · rename_i h
      simp [problem?_eq_none.1 h]

/-- After the operator, reading goes on after a word right behind it only, and notes the field. -/
theorem parseFrom_joined_eq_ok {a o : Token} :
    parseFrom stop (.joined a o) ts = .ok fs ↔ ∃ b rest m gs, ts = b :: rest ∧ Follows .identifier o b ∧
      Mode.ofOperator? o.text = some m ∧ fs = ⟨a.text, b.text, m, a.column⟩ :: gs ∧
      parseFrom stop .whole rest = .ok gs := by
  cases ts with
  | nil => simp [parseFrom]
  | cons t rest =>
    rw [parseFrom.eq_def]
    dsimp only [Stage.expected]
    split
    · rename_i problem h
      have : ¬ Follows .identifier o t := fun hf => by simp [problem?_eq_none.2 hf] at h
      simp [this]
    · rename_i h
      have hf := problem?_eq_none.1 h
      cases hm : Mode.ofOperator? o.text with
      | none => simp
      | some m =>
        cases hg : parseFrom stop .whole rest with
        | error e => simp [hg]
        | ok gs =>
          simp only [List.cons.injEq, Option.some.injEq]
          constructor
          · intro heq
            cases heq
            exact ⟨t, rest, m, gs, ⟨rfl, rfl⟩, hf, rfl, rfl, hg⟩
          · rintro ⟨b, rest', m', gs', ⟨rfl, rfl⟩, -, rfl, rfl, hgs⟩
            rw [hg] at hgs
            cases hgs
            rfl

/-- After a field, reading succeeds at the end or on a comma and further fields. -/
theorem parseFrom_whole_eq_ok :
    parseFrom stop .whole ts = .ok fs ↔ ts = [] ∧ fs = [] ∨
      ∃ comma rest, ts = comma :: rest ∧ comma.kind = .comma ∧
        parseFrom stop .nothing rest = .ok fs := by
  cases ts with
  | nil => simp [parseFrom, eq_comm]
  | cons t rest =>
    rw [parseFrom]
    split
    · simp [*]
    · simp [*]

/-- The three tokens of a field. -/
structure FieldTokens (f : Field) (a o b : Token) : Prop where
  first : a.kind = .identifier
  operator : Follows .operator a o
  second : Follows .identifier o b
  mode : Mode.ofOperator? o.text = some f.mode
  aName : f.aName = a.text
  bName : f.bName = b.text
  column : f.column = a.column

/-- Reading gives fields just if the first three tokens are those of the first one, and what follows
them gives the others. -/
theorem parseFrom_eq_ok :
    parseFrom stop .nothing ts = .ok fs ↔ ∃ f gs a o b rest, fs = f :: gs ∧ ts = a :: o :: b :: rest ∧
      FieldTokens f a o b ∧ parseFrom stop .whole rest = .ok gs := by
  simp only [parseFrom_nothing_eq_ok, parseFrom_first_eq_ok, parseFrom_joined_eq_ok]
  constructor
  · rintro ⟨a, _, rfl, ha, o, _, rfl, ho, b, rest, m, gs, rfl, hb, hm, rfl, hrest⟩
    exact ⟨_, gs, a, o, b, rest, rfl, rfl, ⟨ha, ho, hb, hm, rfl, rfl, rfl⟩, hrest⟩
  · rintro ⟨⟨_, _, m, _⟩, gs, a, o, b, rest, rfl, rfl, ⟨ha, ho, hb, hm, rfl, rfl, rfl⟩, hrest⟩
    exact ⟨a, _, rfl, ha, o, _, rfl, ho, b, rest, m, gs, rfl, hb, hm, rfl, hrest⟩

/-! ## Fields as they are written -/

/-- The tokens of a field are spelled by blanks and the field as it is written. -/
theorem Spells.exists_written {column : Nat} {spaced : Bool} {spec : Text} {a o b : Token}
    {rest : List Token} {f : Field} (h : Spells column spaced spec (a :: o :: b :: rest))
    (hf : FieldTokens f a o b) :
    ∃ before after, spec = before ++ f.written ++ after ∧ before.isBlank ∧ IsWord f.aName ∧
      IsWord f.bName ∧ f.column = column + before.length ∧
      Spells (f.column + f.written.length) false after rest := by
  cases h with
  | token _ _ w₁ rest₁ _ _ hw₁ hcolumn₁ hspaced₁ hlexeme₁ hmax₁ hrest₁ =>
  cases hrest₁ with
  | token _ _ w₂ rest₂ _ _ hw₂ hcolumn₂ hspaced₂ hlexeme₂ hmax₂ hrest₂ =>
  cases hrest₂ with
  | token _ _ w₃ rest₃ _ _ hw₃ hcolumn₃ hspaced₃ hlexeme₃ hmax₃ hrest₃ =>
  -- a token that is not spaced has no blank before it
  have hw₂ : w₂ = [] := by simpa [hf.operator.unspaced] using hspaced₂
  have hw₃ : w₃ = [] := by simpa [hf.second.unspaced] using hspaced₃
  subst hw₂ hw₃
  have ho : o.text = [f.mode.operator] := eq_operator_of_ofOperator? hf.mode
  refine ⟨w₁, rest₃, ?_, hw₁, ?_, ?_, ?_, ?_⟩
  · simp [Field.written, hf.aName, hf.bName, ho]
  · exact hf.aName ▸ hlexeme₁.word hf.first
  · exact hf.bName ▸ hlexeme₃.word hf.second.kind
  · rw [hf.column, hcolumn₁]
  · have hstop : f.column + f.written.length = b.stop := by
      simp only [Token.stop, hf.second.column, hf.operator.column, Field.written, hf.aName, hf.bName,
        hf.column, ho, List.length_append, List.length_cons, List.length_nil]
      omega
    rw [hstop]
    exact hrest₃

/-- Blanks and a field as it is written spell the tokens of the field. -/
theorem exists_spells_written (column : Nat) (spaced : Bool) {before after : Text}
    {rest : List Token} {f : Field} (hbefore : before.isBlank) (ha : IsWord f.aName)
    (hb : IsWord f.bName) (hcolumn : f.column = column + before.length) (hends : EndsWord after)
    (h : Spells (f.column + f.written.length) false after rest) :
    ∃ a o b, FieldTokens f a o b ∧
      Spells column spaced (before ++ f.written ++ after) (a :: o :: b :: rest) := by
  let a : Token := ⟨.identifier, f.aName, f.column, spaced || !before.isEmpty⟩
  let o : Token := ⟨.operator, [f.mode.operator], a.stop, false⟩
  let b : Token := ⟨.identifier, f.bName, o.stop, false⟩
  have hstop : b.stop = f.column + f.written.length := by
    simp only [Token.stop, Field.written, List.length_append, List.length_cons, List.length_nil, a, o, b]
    omega
  refine ⟨a, o, b, ⟨rfl, ⟨rfl, rfl, rfl⟩, ⟨rfl, rfl, rfl⟩, Mode.ofOperator?_operator _, rfl, rfl, rfl⟩, ?_⟩
  have hb' : Spells o.stop false (f.bName ++ after) (b :: rest) :=
    .token _ _ [] after b rest rfl rfl rfl (isLexeme_word hb _ _) (fun _ => hends) (hstop ▸ h)
  have ho' : Spells a.stop false (f.mode.operator :: (f.bName ++ after)) (o :: b :: rest) :=
    .token _ _ [] (f.bName ++ after) o (b :: rest) rfl rfl rfl
      (isLexeme_symbol (kindOf_operator _) (by decide) (isBlank_operator _) _ _) (by simp [o]) hb'
  have hends' : EndsWord (f.mode.operator :: (f.bName ++ after)) := by
    intro c hc
    cases hc
    exact isWordPart_operator _
  have := Spells.token column spaced before _ a (o :: b :: rest) hbefore hcolumn rfl
    (isLexeme_word ha _ _) (fun _ => hends') ho'
  simpa [Field.written, a] using this

/-- Only blanks spell no token. -/
theorem Spells.isBlank {column : Nat} {spaced : Bool} {spec : Text}
    (h : Spells column spaced spec []) : spec.isBlank := by
  cases h with
  | blank _ _ _ hw => exact hw

/-- A comma token is spelled by blanks and a comma. -/
theorem Spells.exists_comma {column : Nat} {spaced : Bool} {spec : Text} {t : Token}
    {rest : List Token} (h : Spells column spaced spec (t :: rest)) (ht : t.kind = .comma) :
    ∃ before after : Text, spec = before ++ .ofChar ',' :: after ∧ before.isBlank ∧
      Spells (column + before.length + 1) false after rest := by
  cases h with
  | token _ _ w after _ _ hw hcolumn hspaced hlexeme hmax hrest =>
    obtain ⟨c, htext, hkind, -⟩ := hlexeme.symbol (by simp [ht])
    have hc : c = .ofChar ',' := eq_comma_of_kindOf (hkind.trans ht)
    refine ⟨w, after, by simp [htext, hc], hw, ?_⟩
    have hstop : t.stop = column + w.length + 1 := by simp [Token.stop, hcolumn, htext]
    exact hstop ▸ hrest

/-- Blanks and a comma spell a comma token. -/
theorem exists_spells_comma (column : Nat) (spaced : Bool) {before after : Text}
    {rest : List Token} (hbefore : before.isBlank)
    (h : Spells (column + before.length + 1) false after rest) :
    ∃ t : Token, t.kind = .comma ∧
      Spells column spaced (before ++ .ofChar ',' :: after) (t :: rest) := by
  let t : Token := ⟨.comma, [.ofChar ','], column + before.length, spaced || !before.isEmpty⟩
  have hlexeme : t.IsLexeme := isLexeme_symbol (by decide) (by decide) (by decide) _ _
  exact ⟨t, rfl, .token _ _ before after t rest hbefore rfl rfl hlexeme (by simp [t]) h⟩

theorem endsWord_of_isBlank {w : Text} (hw : w.isBlank) : EndsWord w := by
  intro c hc
  exact isWordPart_of_isBlank (List.all_eq_true.1 hw c (List.mem_of_mem_head? hc))

theorem endsWord_comma {w : Text} (hw : w.isBlank) (rest : Text) :
    EndsWord (w ++ .ofChar ',' :: rest) := by
  intro c hc
  cases w with
  | nil =>
    cases hc
    decide
  | cons d w =>
    cases hc
    exact isWordPart_of_isBlank (List.all_eq_true.1 hw _ List.mem_cons_self)

/-! ## The main statement -/

/-- What is read is what the grammar says is written. -/
theorem lists_of_parseFrom {column : Nat} {spaced : Bool} {spec : Text}
    (hspells : Spells column spaced spec ts) (h : parseFrom stop .nothing ts = .ok fs) :
    Lists column spec fs := by
  -- on the fields, since the tokens come three or four at a time
  induction fs generalizing column spaced spec ts with
  | nil =>
    obtain ⟨f, gs, a, o, b, rest, hfs, -⟩ := parseFrom_eq_ok.1 h
    cases hfs
  | cons f fs ih =>
    obtain ⟨g, gs, a, o, b, rest, hfs, rfl, hf, hrest⟩ := parseFrom_eq_ok.1 h
    cases hfs
    obtain ⟨before, tail, rfl, hbefore, ha, hb, hcolumn, htail⟩ := hspells.exists_written hf
    rcases parseFrom_whole_eq_ok.1 hrest with ⟨rfl, rfl⟩ | ⟨comma, more, rfl, hcomma, hmore⟩
    · exact .last column before tail f hbefore htail.isBlank ha hb hcolumn
    · obtain ⟨after, tail, rfl, hafter, htail⟩ := htail.exists_comma hcomma
      have := Lists.more column before after tail f fs hbefore hafter ha hb hcolumn (ih htail hmore)
      simpa using this

/-- What the grammar says is written is read. -/
theorem Lists.exists_parseFrom {column : Nat} {spec : Text} (h : Lists column spec fs)
    (stop : Nat) (spaced : Bool) :
    ∃ ts, Spells column spaced spec ts ∧ parseFrom stop .nothing ts = .ok fs := by
  induction h generalizing spaced with
  | last column before after f hbefore hafter ha hb hcolumn =>
    obtain ⟨a, o, b, hf, hspells⟩ := exists_spells_written column spaced hbefore ha hb hcolumn
      (endsWord_of_isBlank hafter) (.blank _ false after hafter)
    exact ⟨_, hspells, parseFrom_eq_ok.2 ⟨f, [], a, o, b, [], rfl, rfl, hf, by rw [parseFrom]⟩⟩
  | more column before after rest f fs hbefore hafter ha hb hcolumn hrest ih =>
    obtain ⟨ts, hts, hparse⟩ := ih false
    obtain ⟨t, ht, hcomma⟩ := exists_spells_comma _ false hafter hts
    obtain ⟨a, o, b, hf, hspells⟩ := exists_spells_written column spaced hbefore ha hb hcolumn
      (endsWord_comma hafter rest) hcomma
    refine ⟨_, by simpa using hspells, parseFrom_eq_ok.2 ⟨f, fs, a, o, b, _, rfl, rfl, hf, ?_⟩⟩
    exact parseFrom_whole_eq_ok.2 (.inr ⟨t, ts, rfl, ht, hparse⟩)

/-- The operator that has been read, if one has, stands for a mode. -/
def Stage.HasMode : Stage → Prop
  | .joined _ operator => (Mode.ofOperator? operator.text).isSome
  | _ => True

/-- An operator token stands for a mode, so no operator that stands for none is ever met. -/
theorem malformed_of_parseFrom {stage : Stage} {fault : Fault} (hstage : stage.HasMode)
    (hts : ∀ t ∈ ts, t.IsLexeme) (h : parseFrom stop stage ts = .error fault) :
    ∃ problem column, fault = .malformed problem column := by
  fun_induction parseFrom stop stage ts with
  | case1 => cases h
  | case2 stage hwhole =>
    cases h
    exact ⟨_, _, rfl⟩
  | case3 t ts hcomma ih => exact ih trivial (fun u hu => hts u (List.mem_cons_of_mem t hu)) h
  | case4 t ts hcomma =>
    cases h
    exact ⟨_, _, rfl⟩
  | case5 stage t ts hwhole problem hproblem =>
    cases h
    exact ⟨_, _, rfl⟩
  | case6 t ts a operator mode hmode hwhole hproblem ih =>
    cases hrest : parseFrom stop .whole ts with
    | ok gs =>
      rw [hrest] at h
      cases h
    | error e =>
      rw [hrest] at h
      cases h
      exact ih trivial (fun u hu => hts u (List.mem_cons_of_mem t hu)) hrest
  | case7 t ts a operator hmode hwhole hproblem =>
    -- the one case without a malformed mapping is shut off by what was noted of the operator
    simp [Stage.HasMode, hmode] at hstage
  | case8 t ts a hwhole hproblem ih =>
    have hkind : t.kind = .operator := (problem?_eq_none.1 hproblem).kind
    obtain ⟨c, htext, hc, -⟩ := (hts t List.mem_cons_self).symbol (by simp [hkind])
    have hmode : (Mode.ofOperator? t.text).isSome :=
      htext ▸ ofOperator?_isSome_of_kindOf (hc.trans hkind)
    exact ih hmode (fun u hu => hts u (List.mem_cons_of_mem t hu)) h
  | case9 stage t ts hwhole hproblem hjoined hfirst ih =>
    exact ih trivial (fun u hu => hts u (List.mem_cons_of_mem t hu)) h

/-- What a text writes: a blank one no fields, another one those of the grammar. -/
def Writes (spec : Text) (fs : List Field) : Prop := spec.isBlank ∧ fs = [] ∨ Lists 0 spec fs

/-- A text that lists fields is not blank. -/
theorem Lists.not_isBlank {column : Nat} {spec : Text} (h : Lists column spec fs) :
    ¬ spec.isBlank := by
  have key (before after : Text) (f : Field) : ¬ Text.isBlank (before ++ f.written ++ after) := by
    simp [Text.isBlank, Field.written, isBlank_operator]
  cases h with
  | last _ before after f => exact key before after f
  | more _ before after rest f fs =>
    have := key before (after ++ .ofChar ',' :: rest) f
    simpa using this

theorem parse_eq_ok_iff {spec : Text} : parse spec = .ok fs ↔ Writes spec fs := by
  unfold parse Writes
  split
  · rename_i hblank
    constructor
    · intro h
      cases h
      exact .inl ⟨hblank, rfl⟩
    · rintro (⟨-, rfl⟩ | h)
      · rfl
      · exact absurd hblank h.not_isBlank
  · rename_i hblank
    constructor
    · intro h
      exact .inr (lists_of_parseFrom (spells_tokensFrom 0 false spec) h)
    · rintro (⟨h, -⟩ | h)
      · exact absurd h hblank
      · obtain ⟨ts, hts, hparse⟩ := h.exists_parseFrom spec.length false
        rw [tokens, tokensFrom_eq_iff.2 hts]
        exact hparse

theorem malformed_of_parse {spec : Text} {fault : Fault} (h : parse spec = .error fault) :
    ∃ problem column, fault = .malformed problem column := by
  unfold parse at h
  split at h
  · cases h
  · have hstage : Stage.HasMode .nothing := trivial
    exact malformed_of_parseFrom hstage (spells_tokensFrom 0 false spec).isLexeme h

/-- The names of the fields that are listed are words. -/
theorem Lists.isWord {column : Nat} {spec : Text} (h : Lists column spec fs) :
    ∀ f ∈ fs, IsWord f.aName ∧ IsWord f.bName := by
  induction h with
  | last column before after f hbefore hafter ha hb hcolumn => simp [ha, hb]
  | more column before after rest f fs hbefore hafter ha hb hcolumn hrest ih =>
    intro g hg
    rcases List.mem_cons.1 hg with rfl | hg
    · exact ⟨ha, hb⟩
    · exact ih g hg

/-- The names of the fields of a mapping are words. -/
theorem isWord_of_fields {mapping : Option Text} (h : fields mapping = .ok fs) :
    ∀ f ∈ fs, IsWord f.aName ∧ IsWord f.bName := by
  cases mapping with
  | none =>
    cases h
    simp
  | some spec =>
    have hparse : parse spec = .ok fs := mapError_eq_ok.1 h
    rcases parse_eq_ok_iff.1 hparse with ⟨-, rfl⟩ | hlists
    · simp
    · exact hlists.isWord

/-- There are no fields only where there is a mapping, and it is then called malformed. -/
theorem malformed_of_fields {mapping : Option Text} {cause : Cause} (h : fields mapping = .error cause) :
    ∃ spec reason column, mapping = some spec ∧ (¬ ∃ fs, Writes spec fs) ∧
      cause = .mapping reason spec column := by
  cases mapping with
  | none => cases h
  | some spec =>
    obtain ⟨fault, hparse, rfl⟩ := mapError_eq_error.1 h
    obtain ⟨problem, column, rfl⟩ := malformed_of_parse hparse
    refine ⟨spec, _, column, rfl, ?_, rfl⟩
    rintro ⟨fs, hfs⟩
    rw [parse_eq_ok_iff.2 hfs] at hparse
    cases hparse

/-- Reading accepts just the texts that the grammar allows, gives the fields that they write, and calls
every other text malformed. -/
theorem fields_eq_ok_iff_writes (spec : Text) :
    (∀ fs, fields (some spec) = .ok fs ↔ Writes spec fs) ∧
      ((¬ ∃ fs, Writes spec fs) →
        ∃ reason column, fields (some spec) = .error (.mapping reason spec column)) := by
  have hfields : fields (some spec) = (parse spec).mapError (Fault.cause spec) := rfl
  constructor
  · intro fs
    rw [← parse_eq_ok_iff, hfields, mapError_eq_ok]
  · intro hnone
    cases hparse : parse spec with
    | ok fs => exact absurd ⟨fs, parse_eq_ok_iff.1 hparse⟩ hnone
    | error fault =>
      obtain ⟨problem, column, rfl⟩ := malformed_of_parse hparse
      exact ⟨_, column, by rw [hfields, hparse]; rfl⟩

end Mapping
end Crosswalk

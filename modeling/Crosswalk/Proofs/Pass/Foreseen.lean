import Crosswalk.Proofs.Declaration.Shape
import Crosswalk.Proofs.Pass.Listing
import Crosswalk.Proofs.Pass.Verdict

/-!
# What a pass may fail for

A pass fails for what it is documented to fail for, `Pass.Foreseen`: the seed table, the form of a declaration, its
mapping, or a key that is taken. The failures that are coded besides cannot come up, since each of them is shut out
elsewhere: a statement that is no call is never read as a declaration, what is read has a constructor with a dotted
name, and a token that is read for an operator stands for a mode. This is `compile_foreseen`.
-/

namespace Crosswalk

namespace Mapping

/-- Each field of a mapping has an operator among the tokens, which stands for its mode. -/
theorem exists_operator_of_parseFrom {stop : Nat} {ts : List Token} {fs : List Field}
    (h : parseFrom stop .nothing ts = .ok fs) :
    ∀ f ∈ fs, ∃ o ∈ ts, o.kind = .operator ∧ Mode.ofOperator? o.text = some f.mode := by
  induction fs generalizing ts with
  | nil => simp
  | cons f fs ih =>
    obtain ⟨_, _, a, o, b, rest, heq, rfl, hf, hrest⟩ := parseFrom_eq_ok.1 h
    obtain ⟨rfl, rfl⟩ := List.cons.inj heq
    refine List.forall_mem_cons.2 ⟨⟨o, by simp, hf.operator.kind, hf.mode⟩, fun g hg => ?_⟩
    rcases parseFrom_whole_eq_ok.1 hrest with ⟨-, rfl⟩ | ⟨comma, rest', rfl, -, hmore⟩
    · cases hg
    · obtain ⟨o', ho', hmode⟩ := ih hmore g hg
      exact ⟨o', by simp [ho'], hmode⟩

theorem Mode.ofOperator_eq_ok_iff {written : Text} {m : Mode} :
    ofOperator written = .ok m ↔ ofOperator? written = some m := by
  unfold ofOperator
  cases ofOperator? written <;> simp

/-- Every operator among the tokens of a text stands for a mode. -/
theorem exists_mode_of_mem_tokens {spec : Text} {t : Token} (ht : t ∈ tokens spec) (hkind : t.kind = .operator) :
    ∃ m, Mode.ofOperator t.text = .ok m := by
  obtain ⟨c, htext, hkindOf, -⟩ := ((spells_tokensFrom 0 false spec).isLexeme t ht).symbol (by simp [hkind])
  obtain ⟨m, hm⟩ := Option.isSome_iff_exists.1 (ofOperator?_isSome_of_kindOf (hkindOf.trans hkind))
  exact ⟨m, Mode.ofOperator_eq_ok_iff.2 (htext ▸ hm)⟩

/-- The mode of each field of a mapping is the one that an operator in it stands for. -/
theorem exists_operator_of_fields {spec : Text} {fs : List Field} (h : fields (some spec) = .ok fs) :
    ∀ f ∈ fs, ∃ o ∈ tokens spec, o.kind = .operator ∧ Mode.ofOperator o.text = .ok f.mode := by
  have hparse : parse spec = .ok fs := mapError_eq_ok.1 h
  unfold parse at hparse
  split at hparse
  · cases hparse
    simp
  · intro f hf
    obtain ⟨o, ho, hkind, hmode⟩ := exists_operator_of_parseFrom hparse f hf
    exact ⟨o, ho, hkind, Mode.ofOperator_eq_ok_iff.2 hmode⟩

end Mapping

namespace Pass

/-- What the messages of a pass quote: the seed table, and the calls that declare. -/
inductive Quoted (config : Config) (t : Tree) : Expr → Prop
  | seed {seed : SeedTable} (hseed : t.seedTable? config.seedTable = some seed) : Quoted config t (.dict seed.entries)
  | call {s : Stmt} {call : Expr} (hs : s ∈ t.declarations config.declarationName)
      (hcall : s.value? = some call) : Quoted config t call

/-- What a pass may fail for. It fails for a text that cannot be written only if a message quotes it. -/
inductive Foreseen (config : Config) (t : Tree) : Failure → Prop
  | noTable (l : Location) (h : t.seedTable? config.seedTable = none) :
      Foreseen config t (.rejected ⟨.seedTable (.ofString config.seedTable), l⟩)
  | badKey (message : Text) (l : Location) {seed : SeedTable} {e : Entry}
      (hseed : t.seedTable? config.seedTable = some seed) (he : e ∈ seed.entries)
      (hkey : ∀ p, ¬ Registry.IsLiteral e p) : Foreseen config t (.rejected ⟨.general message, l⟩)
  | declaration (reason : Text) (l : Location) : Foreseen config t (.rejected ⟨.declaration reason, l⟩)
  | mapping (reason spec : Text) (column : Int) (l : Location) :
      Foreseen config t (.rejected ⟨.mapping reason spec column, l⟩)
  | duplicate (table key : Text) (l : Location) : Foreseen config t (.rejected ⟨.duplicate table key, l⟩)
  | unquotable {quoted : Expr} {fault : PrintFault} (hquoted : Quoted config t quoted)
      (hfault : quoted.print = .error fault) : Foreseen config t (.unprintable fault)

/-- What listing declarations may fail for. -/
inductive ForeseenListed (config : Config) (t : Tree) : Failure → Prop
  | declaration (reason : Text) (l : Location) : ForeseenListed config t (.rejected ⟨.declaration reason, l⟩)
  | unquotable {quoted : Expr} {fault : PrintFault} (hquoted : Quoted config t quoted)
      (hfault : quoted.print = .error fault) : ForeseenListed config t (.unprintable fault)

variable {config : Config} {file : Option String} {source : String} {t : Tree} {f : Failure}

/-- A call of the name is refused for its form, or because there is no text of it to quote. -/
theorem foreseenListed_of_read {s : Stmt} (hs : s ∈ t.declarations config.declarationName)
    (h : Declaration.read file s = .error f) : ForeseenListed config t f := by
  obtain ⟨arguments, keywords, problem, hsimple, -, rfl⟩ :=
    (Declaration.read_eq_error_iff (isDeclaration_of_mem_declarations _ t s hs)).1 h
  unfold Declaration.failure
  split
  · exact .declaration _ _
  · rename_i hfault
    exact .unquotable (.call hs (by rw [hsimple]; rfl)) hfault

theorem ForeseenListed.foreseen (h : ForeseenListed config t f) : Foreseen config t f := by
  cases h with
  | declaration reason l => exact .declaration reason l
  | unquotable hquoted hfault => exact .unquotable hquoted hfault

theorem foreseen_of_locate (h : Registry.locate config.seedTable file t = .error f) : Foreseen config t f := by
  rcases Registry.locate_eq_error_iff.1 h with ⟨hnone, rfl⟩ | ⟨seed, hseed, hkeys, rfl⟩
  · exact .noTable _ hnone
  · obtain ⟨e, he, hkey⟩ := Registry.literalPairs_eq_none_iff.1 hkeys
    unfold Registry.seedFailure
    split
    · exact .badKey _ _ hseed he hkey
    · rename_i hfault
      exact .unquotable (.seed hseed) hfault

theorem foreseen_of_convert {s : Stmt} (hs : s ∈ t.declarations config.declarationName)
    (h : convert config file s = .error f) : Foreseen config t f := by
  rcases convert_eq_error_iff.1 h with hread | ⟨d, cause, -, hcause, rfl⟩
  · exact (foreseenListed_of_read hs hread).foreseen
  · obtain ⟨spec, reason, column, -, -, rfl⟩ := Mapping.malformed_of_fields hcause
    exact .mapping reason spec column _

/-- A declaration that is compiled is refused for its keys only. -/
theorem foreseen_of_enlist {w : Progress} {s : Stmt} (hs : s ∈ t.declarations config.declarationName)
    (h : (enlist config file w s).result = .error f) : Foreseen config t f := by
  rcases enlist_eq_error_iff.1 h with hconvert | ⟨c, cause, -, hadd, rfl⟩
  · exact foreseen_of_convert hs hconvert
  · rcases Registry.add_eq_error_iff.1 hadd with ⟨-, rfl⟩ | ⟨-, -, rfl⟩
    · exact .duplicate _ _ _
    · exact .duplicate _ _ _

theorem foreseen_of_run (h : (run config file source t).result = .error f) : Foreseen config t f := by
  rcases run_eq_error_iff.1 h with hlocate | ⟨start, seat, -, henlist⟩
  · exact foreseen_of_locate hlocate
  · obtain ⟨before, s, after, w, hsplit, -, hs⟩ := enlistAll_eq_error_iff.1 henlist
    exact foreseen_of_enlist (hsplit ▸ List.mem_append_right _ List.mem_cons_self) hs

theorem foreseenListed_of_list (h : list config file t = .error f) : ForeseenListed config t f := by
  rw [list_eq] at h
  obtain ⟨before, s, after, _, hsplit, -, hs⟩ := mapM_eq_error_iff.1 h
  have hmem : s ∈ t.byPlace config.declarationName := hsplit ▸ List.mem_append_right _ List.mem_cons_self
  exact foreseenListed_of_read ((t.perm_byPlace config.declarationName).mem_iff.1 hmem) hs

end Pass

/-- A text is read as a mapping, each field of which takes its mode from an operator in the text, or it is called a
malformed mapping. -/
theorem Mapping.fields_eq_ok_or_malformed (spec : Text) :
    (∃ fs, fields (some spec) = .ok fs ∧
      ∀ f ∈ fs, ∃ o ∈ tokens spec, o.kind = .operator ∧ Mode.ofOperator o.text = .ok f.mode) ∨
    ∃ reason column, fields (some spec) = .error (.mapping reason spec column) := by
  cases h : fields (some spec) with
  | ok fs => exact .inl ⟨fs, rfl, exists_operator_of_fields h⟩
  | error cause =>
    obtain ⟨spec', reason, column, heq, -, rfl⟩ := malformed_of_fields h
    cases heq
    exact .inr ⟨reason, column, rfl⟩

/-- What is read is compiled unless its mapping is malformed. -/
theorem Conversion.compile_eq_ok_or_malformed (config : Config) (d : Declaration) :
    (∃ c, compile config d = .ok c) ∨ ∃ spec reason column,
      d.mapping = some spec ∧ compile config d = .error (.mapping reason spec column) := by
  cases h : compile config d with
  | ok c => exact .inl ⟨c, rfl⟩
  | error cause =>
    obtain ⟨spec, reason, column, hspec, -, rfl⟩ := Mapping.malformed_of_fields (map_eq_error.1 h)
    exact .inr ⟨spec, reason, column, hspec, rfl⟩

/-- A pass has a result or fails for something that is foreseen, and so has a list of the declarations. No declaration
of the source is refused for not being a call; what one is read as has the dotted name of the expression that it
refers to its constructor by, and is compiled unless its mapping is malformed. Any text at all is read as a mapping
or called a malformed one, and the operators in it all stand for modes. -/
theorem compile_foreseen (s : Source) (config : Config) :
    (∀ f, (Pass.run config s.file s.title s.tree).result = .error f → Pass.Foreseen config s.tree f) ∧
    (∀ f, s.declarations config = .error f → Pass.ForeseenListed config s.tree f) ∧
    (∀ stmt ∈ s.tree.declarations config.declarationName,
      Declaration.read s.file stmt ≠ .error .notACall ∧
      ∀ d, Declaration.read s.file stmt = .ok d →
        (∃ e, stmt.reference? = some e ∧ e.dottedName? = some d.constructor) ∧
        ((∃ c, Conversion.compile config d = .ok c) ∨ ∃ spec reason column,
          d.mapping = some spec ∧ Conversion.compile config d = .error (.mapping reason spec column))) ∧
    (∀ spec, (∃ fs, Mapping.fields (some spec) = .ok fs ∧ ∀ f ∈ fs, ∃ o ∈ Mapping.tokens spec,
        o.kind = .operator ∧ Mapping.Mode.ofOperator o.text = .ok f.mode) ∨
      ∃ reason column, Mapping.fields (some spec) = .error (.mapping reason spec column)) ∧
    ∀ spec, ∀ t ∈ Mapping.tokens spec, t.kind = .operator → ∃ m, Mapping.Mode.ofOperator t.text = .ok m := by
  refine ⟨fun f => Pass.foreseen_of_run, fun f => Pass.foreseenListed_of_list, fun stmt hstmt => ⟨fun h => ?_,
    fun d hd => ⟨⟨_, Declaration.reference?_of_read (Pass.isDeclaration_of_mem_declarations _ _ stmt hstmt) hd,
      Expr.dottedName?_toExpr _⟩, Conversion.compile_eq_ok_or_malformed config d⟩⟩,
    Mapping.fields_eq_ok_or_malformed, fun spec t => Mapping.exists_mode_of_mem_tokens⟩
  cases Pass.foreseenListed_of_read hstmt h

end Crosswalk

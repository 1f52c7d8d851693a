import Crosswalk.Proofs.Comment.Quiet
import Crosswalk.Proofs.Conversion.RoundTrip
import Crosswalk.Proofs.Grammar.Line
import Crosswalk.Proofs.Mapping.Grammar
import Crosswalk.Proofs.Pass.Writable
import Crosswalk.Proofs.Print.Generated
import Crosswalk.Proofs.Token.Scan

/-!
# Reading generated code back

What a declaration is compiled to is of the forms of generated expressions, if its constructor is a dotted name of plain
names: `Conversion.generated_aToB` and `Conversion.generated_bToA`. So its text, and that of the statement that
registers it, is read as what was written, whatever the tag and the names of the fields are: `compile_readBack`.
-/

namespace Crosswalk

/-! ## Generated code -/

/-- A bare name of ASCII characters is plain. -/
theorem IsPlainName.of_ascii {n : String} (hbare : (Text.ofString n).isBareName = true)
    (hascii : n.toList.all (·.toNat < 0x80) = true) : IsPlainName n :=
  ⟨hbare, Text.normalize_of_ascii hascii⟩

/-- A word of a mapping that can be written bare is a plain name. -/
theorem Mapping.IsWord.isPlainName {t : Text} (h : IsWord t) (hbare : t.isBareName = true) :
    IsPlainName t.toString := by
  refine .of_ascii (by rwa [ofString_toString_of_isWord h]) ?_
  rw [Text.toString, String.toList_ofList, List.all_map, List.all_eq_true]
  intro c hc
  obtain ⟨ch, rfl, hch⟩ := h.2 c hc
  have hpart := (isWordPart_ofChar ch).2 hch
  have hval : (CodePoint.ofChar ch).val = ch.toNat := rfl
  simp only [isWordPart, hval, Bool.or_eq_true, Bool.and_eq_true, decide_eq_true_eq, beq_iff_eq] at hpart
  simp only [Function.comp_apply, CodePoint.toChar_ofChar, decide_eq_true_eq]
  omega

namespace Expr

variable {n : Nat} {e : Expr}

theorem generated_name {id : String} (h : IsPlainName id) : (Expr.name id).Generated (n + 1) :=
  .name (d := ⟨id, []⟩) (List.forall_mem_singleton.2 h)

theorem Generated.apply {helper : String} (hhelper : IsPlainName helper) (h : e.Generated n) :
    (Expr.apply helper e).Generated (n + 1) :=
  .call (d := ⟨helper, []⟩) (List.forall_mem_singleton.2 hhelper) (.inl (List.cons_ne_nil _ _)) (by simp)
    (List.forall_mem_singleton.2 h) (by simp)

/-- The field of an object is an attribute, or is looked up by the name of one. -/
theorem generated_field {object : String} {name : Text} (hobject : IsPlainName object) (hname : Mapping.IsWord name) :
    (Expr.field (.name object) name).Generated (n + 2) := by
  rw [Expr.field]
  split
  · rename_i hbare
    exact .name (d := ⟨object, [name.toString]⟩)
      (List.forall_mem_cons.2 ⟨hobject, List.forall_mem_singleton.2 (hname.isPlainName hbare)⟩)
  · refine .call (d := ⟨"getattr", []⟩) (List.forall_mem_singleton.2 (.of_ascii (by decide) (by decide)))
      (.inl (List.cons_ne_nil _ _)) (by simp) ?_ (by simp)
    exact List.forall_mem_cons.2 ⟨generated_name hobject, List.forall_mem_singleton.2 (.str name)⟩

end Expr

/-- The names that generated code refers to are plain. -/
structure Config.IsPlain (config : Config) : Prop where
  param : IsPlainName config.param
  fromA : IsPlainName config.fromA
  toA : IsPlainName config.toA
  fromAList : IsPlainName config.fromAList
  toAList : IsPlainName config.toAList
  unwrapBlock : IsPlainName config.unwrapBlock
  rewrapBlock : IsPlainName config.rewrapBlock
  deriveStart : IsPlainName config.deriveStart
  deriveEnd : IsPlainName config.deriveEnd
  registerBToA : IsPlainName config.registerBToA

theorem Config.isPlain_default : Config.IsPlain {} := by
  constructor <;> exact .of_ascii (by decide) (by decide)

namespace Conversion

variable {config : Config} {d : Declaration} {fields : List Mapping.Field} {f : Mapping.Field} {n : Nat}

theorem generated_values_aToB (hconfig : config.IsPlain) (f : Mapping.Field) :
    (f.values config).aToB.Generated (n + 4) := by
  have hitem (n : Nat) : (Expr.item (.name config.param) f.aName).Generated (n + 2) :=
    .item (d := ⟨config.param, []⟩) (List.forall_mem_singleton.2 hconfig.param) f.aName
  unfold Mapping.Field.values
  split
  · exact hitem (n + 2)
  · exact (hitem (n + 1)).apply hconfig.fromA
  · exact (hitem (n + 1)).apply hconfig.fromAList
  · exact ((hitem n).apply hconfig.fromA).apply hconfig.unwrapBlock

theorem generated_values_bToA (hconfig : config.IsPlain) (hname : Mapping.IsWord f.bName) :
    (f.values config).bToA.Generated (n + 3) := by
  have hfield (n : Nat) : (Expr.field (.name config.param) f.bName).Generated (n + 2) :=
    Expr.generated_field hconfig.param hname
  unfold Mapping.Field.values
  split
  · exact hfield (n + 1)
  · exact (hfield n).apply hconfig.toA
  · exact (hfield n).apply hconfig.toAList
  · exact (hfield n).apply hconfig.rewrapBlock

theorem generated_aToB (hconfig : config.IsPlain) (hconstructor : d.constructor.IsPlain)
    (hwords : ∀ f ∈ fields, Mapping.IsWord f.bName) : (ofFields config d fields).aToB.Generated (n + 8) := by
  have hspan : ∀ kw ∈ span config, kw.IsPlain ∧ kw.value.Generated (n + 6) := by
    have hparam : (Expr.name config.param).Generated (n + 5) := Expr.generated_name hconfig.param
    rw [span, List.forall_mem_cons, List.forall_mem_singleton]
    exact ⟨⟨.of_ascii (by decide) (by decide), hparam.apply hconfig.deriveStart⟩,
      ⟨.of_ascii (by decide) (by decide), hparam.apply hconfig.deriveEnd⟩⟩
  have hnamed : ∀ kw ∈ named config fields, kw.IsPlain ∧ kw.value.Generated (n + 6) := by
    rw [named, List.forall_mem_map]
    intro f hf
    obtain ⟨hf, hbare⟩ := List.mem_filter.1 hf
    exact ⟨(hwords f hf).isPlainName hbare, generated_values_aToB hconfig f⟩
  have hspread : ∀ kw ∈ spread config fields, kw.IsPlain ∧ kw.value.Generated (n + 6) := by
    rw [spread]
    split
    · simp
    · rename_i hrest
      -- the values of the dict are one level further inside than those passed by name
      rw [List.forall_mem_singleton]
      refine ⟨trivial, .dict (by simpa using hrest) ?_ ?_⟩ <;> rw [List.forall_mem_map] <;> intro f hf
      · exact ⟨f.bName, rfl⟩
      · exact generated_values_aToB hconfig f
  have hall : ∀ kw ∈ span config ++ named config fields ++ spread config fields,
      kw.IsPlain ∧ kw.value.Generated (n + 6) := by
    rw [List.forall_mem_append, List.forall_mem_append]
    exact ⟨⟨hspan, hnamed⟩, hspread⟩
  have hnode : (node config d.constructor fields).Generated (n + 7) :=
    .call hconstructor (.inr (by simp [span])) (fun kw hkw => (hall kw hkw).1) (by simp) fun kw hkw => (hall kw hkw).2
  exact .function hconfig.param hnode

theorem generated_bToA (hconfig : config.IsPlain) (hwords : ∀ f ∈ fields, Mapping.IsWord f.bName) :
    (ofFields config d fields).bToA.Generated (n + 7) := by
  have hrecord : (record config d.tag fields).Generated (n + 6) := by
    refine .dict (List.cons_ne_nil _ _) ?_ ?_ <;> rw [List.forall_mem_cons, List.forall_mem_map]
    · exact ⟨⟨_, rfl⟩, fun f _ => ⟨f.aName, rfl⟩⟩
    · exact ⟨.str d.tag, fun f hf => generated_values_bToA hconfig (hwords f hf)⟩
  exact .function hconfig.param hrecord

end Conversion

/-! ## Reading it back -/

/-- The text of a generated expression is read as one statement, the expression. -/
theorem Expr.exists_read_text {e : Expr} {w : String} {place : Level} (he : ∀ n, e.Generated (n + 8))
    (hhead : e.kinds.head? = some (.word w)) (hw : Grammar.StartsLine w) (hplace : place ≤ Level.test) :
    ∃ span, Tree.read (e.text false place) = .ok [.simple span (.expr e)] := by
  obtain ⟨ks, hkinds⟩ := List.head?_eq_some_iff.1 hhead
  have hspelled := (he 0).spelled (Nat.le_refl _) hplace
  have hscan := Token.map_kind_scan hspelled (by decide)
  obtain ⟨span, hparse⟩ := Tree.parse_of_map_kind hscan hspelled.length_le he hkinds hw
  exact ⟨span, Tree.read_of_parse hspelled hparse⟩

/-- A generated function is read back from its text. -/
theorem Expr.exists_read_print {param : String} {body : Expr}
    (h : ∀ n, (Expr.function param body).Generated (n + 8)) (hfault : (Expr.function param body).fault? = none) :
    ∃ text span, (Expr.function param body).print = .ok text ∧
      Tree.read text = .ok [.simple span (.expr (.function param body))] := by
  have hhead : (Expr.function param body).kinds.head? = some (.word "lambda") := by
    rw [Expr.function, Expr.kinds]
    rfl
  obtain ⟨span, hread⟩ := exists_read_text h hhead ⟨.inl rfl, by decide⟩ (Nat.le_refl Level.test)
  refine ⟨_, span, ?_, hread⟩
  rw [print, hfault]
  rfl

/-- A call of a generated function is read back from the text of the statement that it is. -/
theorem Tree.exists_read_print {function : String} {arguments : List Expr}
    (h : ∀ n, (Expr.call (.name function) arguments []).Generated (n + 8)) (hstarts : Grammar.StartsLine function)
    (hfault : (Expr.call (.name function) arguments []).fault? = none) (span : Span) :
    ∃ text span', print [.simple span (.expr (.call (.name function) arguments []))] = .ok text ∧
      read text = .ok [.simple span' (.expr (.call (.name function) arguments []))] := by
  have hhead : (Expr.call (.name function) arguments []).kinds.head? = some (.word function) := by
    rw [Expr.kinds, Expr.kinds]
    rfl
  obtain ⟨span', hread⟩ := Expr.exists_read_text h hhead hstarts (show Level.yield ≤ Level.test by decide)
  refine ⟨_, span', ?_, hread⟩
  simp [print, suiteFault?, Stmt.fault?, Simple.fault?, hfault, Tree.text, Stmt.text, suiteText, newLine, indentation,
    Simple.docText, Simple.text]

/-- What a declaration with a readable mapping is compiled to is read back from its text: either function, and the
statement that registers the second one. -/
theorem compile_readBack (d : Declaration) (fields : List Mapping.Field)
    (hfields : Mapping.fields d.mapping = .ok fields) (hconstructor : d.constructor.IsPlain) :
    ∃ c, Conversion.compile {} d = .ok c ∧
      (∀ e ∈ [c.aToB, c.bToA], ∃ text span, e.print = .ok text ∧ Tree.read text = .ok [.simple span (.expr e)]) ∧
      ∀ span, ∃ text span', Tree.print [c.registration span] = .ok text ∧
        Tree.read text = .ok [c.registration span'] := by
  have hconfig := Config.isPlain_default
  have hwords : ∀ f ∈ fields, Mapping.IsWord f.bName := fun f hf => (Mapping.isWord_of_fields hfields f hf).2
  have haToB (n : Nat) : (Conversion.ofFields {} d fields).aToB.Generated (n + 8) :=
    Conversion.generated_aToB hconfig hconstructor hwords
  have hbToA (n : Nat) : (Conversion.ofFields {} d fields).bToA.Generated (n + 7) :=
    Conversion.generated_bToA hconfig hwords
  -- the statement calls the function that registers with the constructor and the function from B to A
  have hcall (n : Nat) : (Expr.call (.name "register_B_to_A")
      [d.constructor.toExpr, (Conversion.ofFields {} d fields).bToA] []).Generated (n + 8) :=
    .call (d := ⟨"register_B_to_A", []⟩) (List.forall_mem_singleton.2 hconfig.registerBToA)
      (.inl (List.cons_ne_nil _ _)) (by simp)
      (List.forall_mem_cons.2 ⟨.name hconstructor, List.forall_mem_singleton.2 (hbToA n)⟩) (by simp)
  have hfault := Conversion.fault?_bToA {} d fields
  have hcallFault : (Expr.call (.name "register_B_to_A")
      [d.constructor.toExpr, (Conversion.ofFields {} d fields).bToA] []).fault? = none := by
    simp [Expr.fault?, faultEach?, keywordsFault?, d.constructor.fault?_toExpr, hfault]
  refine ⟨_, Conversion.compile_eq_ok_iff.2 ⟨fields, hfields, rfl⟩, ?_, fun span => ?_⟩
  · rw [List.forall_mem_cons, List.forall_mem_singleton]
    exact ⟨Expr.exists_read_print haToB (Conversion.fault?_aToB {} d fields),
      Expr.exists_read_print (fun n => hbToA (n + 1)) hfault⟩
  · exact Tree.exists_read_print hcall ⟨.inr (by decide), by decide⟩ hcallFault span

/-- The declaration of a loop under a tag with both quotes, a backslash, a line break, a null character and half of a
surrogate pair. -/
def Thing.oddlyTagged : Declaration := { Thing.declaration with tag := [39, 34, 92, 10, 0, 0xD83D] }

theorem compile_readBack_oddlyTagged :
    Mapping.fields Thing.oddlyTagged.mapping = .ok Thing.fields ∧ Thing.oddlyTagged.constructor.IsPlain ∧
    ∃ c, Conversion.compile {} Thing.oddlyTagged = .ok c ∧
      (∀ e ∈ [c.aToB, c.bToA], ∃ text span, e.print = .ok text ∧ Tree.read text = .ok [.simple span (.expr e)]) ∧
      ∀ span, ∃ text span', Tree.print [c.registration span] = .ok text ∧
        Tree.read text = .ok [c.registration span'] := by
  have hfields : Mapping.fields Thing.oddlyTagged.mapping = .ok Thing.fields :=
    mapError_eq_ok.2 (Mapping.parse_eq_ok_iff.2 (.inr Thing.lists_fields))
  have hconstructor : Thing.oddlyTagged.constructor.IsPlain :=
    List.forall_mem_cons.2 ⟨.of_ascii (by decide) (by decide),
      List.forall_mem_singleton.2 (.of_ascii (by decide) (by decide))⟩
  exact ⟨hfields, hconstructor, compile_readBack Thing.oddlyTagged Thing.fields hfields hconstructor⟩

end Crosswalk

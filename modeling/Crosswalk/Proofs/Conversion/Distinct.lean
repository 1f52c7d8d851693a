import Crosswalk.Proofs.Conversion.RoundTrip
import Crosswalk.Proofs.Registry

/-!
# Names that occur once

The record that a node becomes is written with the tag first and an entry for each field after it, and a constructor
is called with the span first and an argument for each field after it. A mapping may give a field the name of the
tag, of a part of the span or of another field, and the declaration is compiled like any other:

* `bToA_keys`: in the record the last entry of a name counts, so that the tag is kept if no field is named like it,
  and each field has an entry of its own just if no name occurs twice;
* `aToB_arguments`: what is passed by name and what is passed in a dict never share a name, but a name is passed
  twice if a field is named like a part of the span or like another field, and such a call has no result.
-/

namespace Crosswalk

open Mapping (Field)

/-- The keys of a record display, if all of them are string literals. -/
def Expr.literalKeys? : Expr → Option (List Text)
  | .dict entries => (Registry.literalPairs entries).map (·.map (·.1))
  | _ => none

/-- Entries that are written with string literals read as they are written. -/
theorem Registry.literalPairs_map {α : Type} (items : List α) (key : α → Text) (value : α → Expr) :
    literalPairs (items.map fun a => .pair (.str (key a)) (value a)) =
      some (items.map fun a => (key a, value a)) := by
  rw [literalPairs_eq_some_iff, List.forall₂_map_left_iff, List.forall₂_map_right_iff, List.forall₂_same]
  exact fun a _ => ⟨false, rfl⟩

section

variable {ω : Type} {w : World ω} {config : Config} {scope : Scope ω} {d : Declaration} {fields : List Field}

/-- A mapping may be one field alone. -/
theorem compile_single {f : Field} (hspec : d.mapping = some f.written) (ha : Mapping.IsWord f.aName)
    (hb : Mapping.IsWord f.bName) (hcolumn : f.column = 0) :
    Conversion.compile config d = .ok (.ofFields config d [f]) := by
  have hlists : Mapping.Lists 0 f.written [f] := by simpa using Mapping.Lists.last 0 [] [] f rfl rfl ha hb hcolumn
  refine Conversion.compile_eq_ok_iff.2 ⟨[f], ?_, rfl⟩
  rw [hspec]
  exact mapError_eq_ok.2 (Mapping.parse_eq_ok_iff.2 (.inr hlists))

/-! ## The entries of a record -/

/-- A record is written with the key of the tag and a key for each field. -/
theorem literalKeys?_record (tag : Text) :
    (Conversion.record config tag fields).literalKeys? = some (recordKeys config fields) := by
  have hfields := Registry.literalPairs_map fields (·.aName) fun f => (f.values config).bToA
  rw [Conversion.record, Expr.literalKeys?, Option.map_eq_some_iff]
  refine ⟨(.ofString config.typeKey, .str tag) :: fields.map fun f => (f.aName, (f.values config).bToA), ?_, ?_⟩
  · rw [Registry.literalPairs_eq_some_iff] at hfields ⊢
    exact .cons ⟨false, rfl⟩ hfields
  · rw [List.map_cons, List.map_map]
    rfl

/-- Entries have values if the expressions in them have. -/
theorem isSome_evalEntries_map {α : Type} (items : List α) (key : α → Text) (value : α → Expr) :
    (evalEntries w scope (items.map fun a => .pair (.str (key a)) (value a))).isSome ↔
      ∀ a ∈ items, ((value a).eval w scope).isSome := by
  induction items with
  | nil => simp [evalEntries]
  | cons a items ih =>
    rw [List.map_cons, evalEntries, eval_str, List.forall_mem_cons, ← ih]
    cases (value a).eval w scope <;> simp [Value.string?]

/-- There is a record if each field has a value. -/
theorem isSome_applyTo_bToA {node : Value ω} :
    ((Conversion.ofFields config d fields).bToA.applyTo w node).isSome ↔
      ∀ f ∈ fields, ((f.values config).bToA.eval w (w.within config.param node)).isSome := by
  rw [← isSome_evalEntries_map fields (·.aName) fun f => (f.values config).bToA]
  show ((Conversion.record config d.tag fields).eval w _).isSome ↔ _
  rw [Conversion.record, Expr.eval, evalEntries]
  simp only [eval_string, eval_str, Value.string?, Option.bind_some, Option.isSome_map]

/-- What a record has of the tag and the fields of a declaration, given the values of the fields. -/
structure Keeps (config : Config) (d : Declaration) (fields : List Field) (value : Field → Option (Value ω))
    (back : Table Text (Value ω)) : Prop where
  /-- Each name has one entry, where it comes first. -/
  keys : back.keys = (recordKeys config fields).eraseDups
  /-- The tag is kept if no field is named like it. -/
  tag : .ofString config.typeKey ∉ fields.map (·.aName) →
    back.get? (.ofString config.typeKey) = some (.string d.tag)
  /-- Of the fields of a name the last one is kept, be it in the place of the tag. -/
  last : ∀ before f after, fields = before ++ f :: after → f.aName ∉ after.map (·.aName) →
    back.get? f.aName = value f
  /-- There is an entry for the tag and one for each field just if no name occurs twice. -/
  full : back.length = fields.length + 1 ↔ (recordKeys config fields).Nodup

/-- A record that is made of the tag and the values of the fields keeps the last of each name. -/
theorem keeps_ofPairs {value : Field → Option (Value ω)} {found : Field → Value ω}
    (hfound : ∀ f ∈ fields, value f = some (found f)) :
    Keeps config d fields value (Table.ofPairs ((.ofString config.typeKey, .string d.tag) ::
      fields.map fun f => (f.aName, found f))) := by
  have hkeys : ((Text.ofString config.typeKey, Value.string d.tag) ::
      fields.map fun f => (f.aName, found f)).map (·.1) = recordKeys config fields := by
    rw [List.map_cons, List.map_map]
    rfl
  constructor
  · rw [Table.keys_ofPairs, Table.firstKeys, hkeys]
    -- names are compared as lists here and as keys there
    congr 1
    exact lawful_beq_subsingleton _ _
  · intro htag
    rw [← List.nil_append ((Text.ofString config.typeKey, Value.string d.tag) :: _)]
    refine Table.get?_ofPairs ?_
    rw [List.map_map]
    exact htag
  · rintro before f after rfl hlast
    rw [hfound f (by simp), List.map_append, List.map_cons, ← List.cons_append]
    refine Table.get?_ofPairs ?_
    rw [List.map_map]
    exact hlast
  · rw [← hkeys, ← Table.length_ofPairs_eq_iff, List.length_cons, List.length_map]

/-! ## The arguments of a call -/

/-- The names of the arguments that are given one by one. -/
def givenNames (keywords : List Keyword) : List Text :=
  keywords.filterMap fun
    | .named name _ => some (.ofString name)
    | .spread _ => none

/-- The keys of the records that are given as arguments, if all of them are string literals. -/
def spreadKeys? : List Keyword → Option (List Text)
  | [] => some []
  | .named _ _ :: rest => spreadKeys? rest
  | .spread value :: rest => value.literalKeys?.bind fun keys => (spreadKeys? rest).map (keys ++ ·)

/-- The names on the B side that can be written bare. -/
def bareNames (fields : List Field) : List Text := (fields.map (·.bName)).filter Text.isBareName

/-- The names on the B side that cannot be written bare. -/
def quotedNames (fields : List Field) : List Text := (fields.map (·.bName)).filter fun n => !n.isBareName

theorem givenNames_append (ks ls : List Keyword) : givenNames (ks ++ ls) = givenNames ks ++ givenNames ls :=
  List.filterMap_append

theorem spreadKeys?_append {ks ls : List Keyword} {keys keys' : List Text} (h : spreadKeys? ks = some keys)
    (h' : spreadKeys? ls = some keys') : spreadKeys? (ks ++ ls) = some (keys ++ keys') := by
  induction ks generalizing keys with
  | nil =>
    cases h
    exact h'
  | cons k ks ih =>
    cases k with
    | named name value => exact ih h
    | spread value =>
      obtain ⟨first, hfirst, h⟩ := Option.bind_eq_some_iff.1 h
      obtain ⟨rest, hrest, rfl⟩ := Option.map_eq_some_iff.1 h
      rw [List.cons_append, spreadKeys?, hfirst, Option.bind_some, ih hrest, Option.map_some, List.append_assoc]

/-- The fields that are passed by name keep their names. -/
theorem givenNames_named (hword : ∀ f ∈ fields, Text.ofString f.bName.toString = f.bName) :
    givenNames (Conversion.named config fields) = bareNames fields := by
  unfold Conversion.named givenNames bareNames
  rw [List.filterMap_map, List.filter_map]
  show (fields.filter (·.bName.isBareName)).filterMap (fun f => some (Text.ofString f.bName.toString)) = _
  rw [← List.filterMap_eq_map]
  refine List.filterMap_congr fun f hf => ?_
  rw [hword f (List.mem_filter.1 hf).1]
  rfl

theorem spreadKeys?_named : spreadKeys? (Conversion.named config fields) = some [] := by
  unfold Conversion.named
  induction fields.filter (·.bName.isBareName) with
  | nil => rfl
  | cons f rest ih => exact ih

theorem givenNames_spread : givenNames (Conversion.spread config fields) = [] := by
  rcases Conversion.spread_eq_or config fields with ⟨-, hspread⟩ | hspread <;> rw [hspread] <;> rfl

/-- The dict has a key for each field that is passed in it. -/
theorem spreadKeys?_spread : spreadKeys? (Conversion.spread config fields) = some (quotedNames fields) := by
  have hkeys : quotedNames fields = (fields.filter fun f => !f.bName.isBareName).map (·.bName) := by
    rw [quotedNames, List.filter_map]
    rfl
  rw [hkeys]
  rcases Conversion.spread_eq_or config fields with ⟨hempty, hspread⟩ | hspread
  · rw [hspread, hempty]
    rfl
  · rw [hspread, spreadKeys?, Expr.literalKeys?, Registry.literalPairs_map]
    simp [spreadKeys?]

/-- What is passed by name is among the arguments of a call. -/
theorem sublist_evalKeywords {keywords : List Keyword} {named : List (Text × Value ω)}
    (h : evalKeywords w scope keywords = some named) : (givenNames keywords).Sublist (named.map (·.1)) := by
  induction keywords generalizing named with
  | nil => exact List.nil_sublist _
  | cons k keywords ih =>
    cases k with
    | named name value =>
      rw [evalKeywords] at h
      obtain ⟨x, -, h⟩ := Option.bind_eq_some_iff.1 h
      obtain ⟨rest, hrest, rfl⟩ := Option.map_eq_some_iff.1 h
      exact (ih hrest).cons_cons _
    | spread value =>
      rw [evalKeywords] at h
      obtain ⟨first, -, h⟩ := Option.bind_eq_some_iff.1 h
      obtain ⟨rest, hrest, rfl⟩ := Option.map_eq_some_iff.1 h
      rw [List.map_append]
      exact (ih hrest).trans (List.sublist_append_right _ _)

/-- A call that passes a name twice has no result. -/
theorem eval_call_of_not_nodup {function : Expr} {keywords : List Keyword} (h : ¬ (givenNames keywords).Nodup) :
    (Expr.call function [] keywords).eval w scope = none := by
  rw [Expr.eval]
  cases function.eval w scope with
  | none => rfl
  | some f =>
    rw [Option.bind_some, evalEach, Option.bind_some]
    cases hkeywords : evalKeywords w scope keywords with
    | none => rfl
    | some named =>
      have hnamed : ¬ (named.map (·.1)).Nodup := fun hnodup => h (hnodup.sublist (sublist_evalKeywords hkeywords))
      cases f with
      | other f => exact if_neg hnamed
      | string t => rfl
      | literal c => rfl
      | record entries => rfl
      | getattr => rfl

/-- What a call passes for the fields of a declaration. -/
structure Passes (config : Config) (fields : List Field) (keywords : List Keyword) : Prop where
  /-- The span is passed first. -/
  span : ∃ rest, keywords = Conversion.span config ++ rest
  /-- After the span the fields whose names can be written bare are passed by name. -/
  given : givenNames keywords = .ofString "start" :: .ofString "end" :: bareNames fields
  /-- The other fields are passed in a dict. -/
  quoted : spreadKeys? keywords = some (quotedNames fields)
  /-- What is passed by name is not passed in the dict. -/
  disjoint : (givenNames keywords).Disjoint (quotedNames fields)
  /-- No name is passed twice by name just if none of these fields is named like a part of the span or like another. -/
  nodup_given : (givenNames keywords).Nodup ↔
    .ofString "start" ∉ fields.map (·.bName) ∧ .ofString "end" ∉ fields.map (·.bName) ∧ (bareNames fields).Nodup
  /-- No name is passed twice at all just if the names of the span and the fields are distinct. -/
  nodup : (givenNames keywords ++ quotedNames fields).Nodup ↔ (argumentNames fields).Nodup

theorem mem_bareNames_iff {name : Text} (h : name.isBareName) :
    name ∈ bareNames fields ↔ name ∈ fields.map (·.bName) := by
  rw [bareNames, List.mem_filter, and_iff_left h]

theorem isBareName_start : (Text.ofString "start").isBareName := by decide

theorem isBareName_end : (Text.ofString "end").isBareName := by decide

theorem start_ne_end : Text.ofString "start" ≠ Text.ofString "end" := by decide

/-- The arguments of the constructor pass the span and the fields. -/
theorem passes_node (hword : ∀ f ∈ fields, Text.ofString f.bName.toString = f.bName) :
    Passes config fields
      (Conversion.span config ++ Conversion.named config fields ++ Conversion.spread config fields) := by
  have hgiven : givenNames
      (Conversion.span config ++ Conversion.named config fields ++ Conversion.spread config fields) =
        .ofString "start" :: .ofString "end" :: bareNames fields := by
    rw [givenNames_append, givenNames_append, givenNames_named hword, givenNames_spread, List.append_nil]
    rfl
  constructor
  · exact ⟨_, List.append_assoc _ _ _⟩
  · exact hgiven
  · have hspan : spreadKeys? (Conversion.span config) = some [] := rfl
    exact spreadKeys?_append (spreadKeys?_append hspan spreadKeys?_named) spreadKeys?_spread
  · rw [hgiven]
    intro name hname hquoted
    have hnot : name.isBareName = false := by simpa using (List.mem_filter.1 hquoted).2
    have hbare : name.isBareName = true := by
      simp only [List.mem_cons] at hname
      rcases hname with rfl | rfl | hname
      · exact isBareName_start
      · exact isBareName_end
      · exact (List.mem_filter.1 hname).2
    rw [hnot] at hbare
    cases hbare
  · rw [hgiven, List.nodup_cons, List.nodup_cons, List.mem_cons, not_or, mem_bareNames_iff isBareName_start,
      mem_bareNames_iff isBareName_end]
    simp only [start_ne_end, not_false_iff, true_and]
  · rw [hgiven, argumentNames]
    have hperm : (bareNames fields ++ quotedNames fields).Perm (fields.map (·.bName)) := List.filter_append_perm _ _
    exact ((hperm.cons _).cons _).nodup_iff

end

/-- The function from B to A builds a record of the tag and the fields, whatever their names are. Each name is kept
once, with the value that is written last, so that the record has an entry for the tag and one for each field just if
the names are distinct. -/
theorem bToA_keys {ω : Type} (w : World ω) (config : Config) (d : Declaration) (c : Conversion)
    (hc : Conversion.compile config d = .ok c) :
    (∃ display, c.bToA = .function config.param display ∧
      display.literalKeys? = some (recordKeys config c.fields)) ∧
    ((recordKeys config c.fields).Nodup ↔
      .ofString config.typeKey ∉ c.fields.map (·.aName) ∧ (c.fields.map (·.aName)).Nodup) ∧
    ∀ node, ((c.bToA.applyTo w node).isSome ↔
        ∀ f ∈ c.fields, ((f.values config).bToA.eval w (w.within config.param node)).isSome) ∧
      ∀ result, c.bToA.applyTo w node = some result → ∃ back, result = .record back ∧
        Keeps config d c.fields (fun f => (f.values config).bToA.eval w (w.within config.param node)) back := by
  obtain ⟨fields, -, rfl⟩ := Conversion.compile_eq_ok_iff.1 hc
  refine ⟨⟨_, rfl, literalKeys?_record d.tag⟩, List.nodup_cons, fun node => ⟨isSome_applyTo_bToA, ?_⟩⟩
  intro result hresult
  have hvalues := isSome_applyTo_bToA.1 (Option.isSome_of_eq_some hresult)
  have hfound : ∀ f ∈ fields, (f.values config).bToA.eval w (w.within config.param node) =
      some ((f.values config).bToA.eval w (w.within config.param node)).get! := by
    intro f hf
    obtain ⟨x, hx⟩ := Option.isSome_iff_exists.1 (hvalues f hf)
    rw [hx]
    rfl
  rw [applyTo_bToA_eq_ofPairs hfound] at hresult
  cases hresult
  exact ⟨_, rfl, keeps_ofPairs hfound⟩

namespace Thing

/-- A node of the declaration. -/
def loopNode : Value Thing :=
  .other (.node [(.ofString "name", .literal .none), (.ofString "class", .other (.converted (.string []))),
    (.ofString "$items", .other (.converted (.record []))), (.ofString "body", .other (.statements (.string [])))])

/-- A field that is named like the tag. -/
def retyped : Declaration := ⟨.ofString "Foo", ⟨"B_Foo", []⟩, some (.ofString "type=kind"), ⟨1, 0⟩⟩

/-- A field that is named like a part of the span. -/
def restarted : Declaration := ⟨.ofString "Foo", ⟨"B_Foo", []⟩, some (.ofString "first=start"), ⟨1, 0⟩⟩

theorem compile_retyped : Conversion.compile {} retyped =
    .ok (.ofFields {} retyped [⟨.ofString "type", .ofString "kind", .direct, 0⟩]) :=
  compile_single rfl (Mapping.isWord_ofString rfl rfl) (Mapping.isWord_ofString rfl rfl) rfl

theorem compile_restarted : Conversion.compile {} restarted =
    .ok (.ofFields {} restarted [⟨.ofString "first", .ofString "start", .direct, 0⟩]) :=
  compile_single rfl (Mapping.isWord_ofString rfl rfl) (Mapping.isWord_ofString rfl rfl) rfl

end Thing

/-- The record of a loop has its tag and its four fields. -/
theorem bToA_keys_loop : Conversion.compile {} Thing.declaration = .ok (.ofFields {} Thing.declaration Thing.fields) ∧
    (recordKeys {} Thing.fields).Nodup ∧ ∃ back,
      (Conversion.ofFields {} Thing.declaration Thing.fields).bToA.applyTo Thing.world Thing.loopNode =
        some (.record back) ∧
      back.length = 5 ∧ Table.get? back (.ofString "type") = some (.string (.ofString "Loop")) := by
  obtain ⟨-, hnodup, hrun⟩ := bToA_keys Thing.world {} Thing.declaration _ Thing.compile_declaration
  have hdistinct := hnodup.2 ⟨by decide, by decide⟩
  obtain ⟨result, hresult⟩ : ∃ result, (Conversion.ofFields {} Thing.declaration Thing.fields).bToA.applyTo
    Thing.world Thing.loopNode = some result := ⟨_, rfl⟩
  obtain ⟨back, rfl, hback⟩ := (hrun Thing.loopNode).2 result hresult
  exact ⟨Thing.compile_declaration, hdistinct, back, hresult, hback.full.2 hdistinct, hback.tag (by decide)⟩

/-- A field that is named like the tag takes its place in the record. -/
theorem bToA_keys_retyped : ∃ c back, Conversion.compile {} Thing.retyped = .ok c ∧
    ¬ (recordKeys {} c.fields).Nodup ∧
    c.bToA.applyTo Thing.world (.other (.node [(.ofString "kind", .string (.ofString "x"))])) =
      some (.record back) ∧
    Table.keys back = [.ofString "type"] ∧
    Table.get? back (.ofString "type") ≠ some (.string Thing.retyped.tag) := by
  refine ⟨_, [(.ofString "type", .string (.ofString "x"))], Thing.compile_retyped, by decide, rfl, rfl, ?_⟩
  intro h
  have hvalue : Value.string (ω := Thing) (.ofString "x") = .string Thing.retyped.tag := Option.some.inj h
  injection hvalue with htext
  exact absurd htext (by decide)

/-- The function from A to B calls the constructor with the span and the fields, whatever their names are. -/
theorem aToB_arguments {ω : Type} (w : World ω) (config : Config) (d : Declaration) (c : Conversion)
    (hc : Conversion.compile config d = .ok c) :
    ∃ keywords, c.aToB = .function config.param (.call d.constructor.toExpr [] keywords) ∧
      Passes config c.fields keywords ∧
      (¬ (givenNames keywords).Nodup → ∀ record, c.aToB.applyTo w record = none) := by
  obtain ⟨fields, hfields, rfl⟩ := Conversion.compile_eq_ok_iff.1 hc
  have hword : ∀ f ∈ fields, Text.ofString f.bName.toString = f.bName := fun f hf =>
    Mapping.ofString_toString_of_isWord (Mapping.isWord_of_fields hfields f hf).2
  exact ⟨_, rfl, passes_node hword, fun hnot record => eval_call_of_not_nodup hnot⟩

/-- The constructor of a loop is called with four names and a dict of the other two fields. -/
theorem aToB_arguments_loop :
    Conversion.compile {} Thing.declaration = .ok (.ofFields {} Thing.declaration Thing.fields) ∧
    ∃ keywords, (Conversion.ofFields {} Thing.declaration Thing.fields).aToB =
        .function "node" (.call Thing.declaration.constructor.toExpr [] keywords) ∧
      (givenNames keywords).Nodup ∧ (givenNames keywords).Disjoint (quotedNames Thing.fields) ∧
      spreadKeys? keywords = some [.ofString "class", .ofString "$items"] := by
  obtain ⟨keywords, hcall, hpasses, -⟩ := aToB_arguments Thing.world {} Thing.declaration _ Thing.compile_declaration
  exact ⟨Thing.compile_declaration, keywords, hcall, hpasses.nodup_given.2 ⟨by decide, by decide, by decide⟩,
    hpasses.disjoint, hpasses.quoted⟩

/-- A field that is named like a part of the span is passed beside it. -/
theorem aToB_arguments_restarted : ∃ c keywords, Conversion.compile {} Thing.restarted = .ok c ∧
    c.aToB = .function "node" (.call Thing.restarted.constructor.toExpr [] keywords) ∧
    givenNames keywords = [.ofString "start", .ofString "end", .ofString "start"] ∧
    ¬ (givenNames keywords).Nodup :=
  ⟨_, _, Thing.compile_restarted, rfl, rfl, by decide⟩

end Crosswalk

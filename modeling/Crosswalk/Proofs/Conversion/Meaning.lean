import Crosswalk.Conversion
import Crosswalk.Proofs.Table

/-!
# The meaning of generated code

Generated functions are made of a few forms: names, string constants, entries of records, attributes,
calls with arguments given by name or in a record, and record displays. `Expr.eval` gives the value of an
expression of these forms in a scope, and `Expr.applyTo` that of a function at an argument. What the names of a
module stand for is given by a `World`; a form without a value, or a step that the world refuses, gives none.
-/

namespace Crosswalk

/-- A value at run time. Those of type `ω` belong to the world: functions, classes, modules and their
objects. -/
inductive Value (ω : Type)
  | string (t : Text)
  | literal (c : Constant)
  | record (entries : List (Text × Value ω))
  /-- The function that looks up an attribute by a string. -/
  | getattr
  | other (x : ω)

instance {ω : Type} : Inhabited (Value ω) := ⟨.getattr⟩

/-- What a module stands in: its global names, the attributes of the world's values and what calling them
with arguments by place and by name gives. -/
structure World (ω : Type) where
  globals : String → Option (Value ω)
  attr : ω → Text → Option (Value ω)
  call : ω → List (Value ω) → List (Text × Value ω) → Option (Value ω)

variable {ω : Type} (w : World ω)

namespace Value

/-- An attribute of a value. -/
def attr (name : Text) : Value ω → Option (Value ω)
  | .other x => w.attr x name
  | _ => none

/-- The entry of a record under a string. -/
def item : Value ω → Value ω → Option (Value ω)
  | .record entries, .string key => Table.get? entries key
  | _, _ => none

/-- What a call gives. No two arguments may have the same name. -/
def call (arguments : List (Value ω)) (named : List (Text × Value ω)) : Value ω → Option (Value ω)
  | .getattr =>
    match arguments, named with
    | [object, .string name], [] => object.attr w name
    | _, _ => none
  | .other f => if (named.map (·.1)).Nodup then w.call f arguments named else none
  | _ => none

/-- The entries of a record. -/
def entries? : Value ω → Option (List (Text × Value ω))
  | .record entries => some entries
  | _ => none

/-- The text of a string. -/
def string? : Value ω → Option Text
  | .string t => some t
  | _ => none

end Value

/-- The values of the names at a place. -/
abbrev Scope (ω : Type) := String → Option (Value ω)

mutual

/-- The value of an expression in a scope. -/
def Expr.eval (scope : Scope ω) : Expr → Option (Value ω)
  | .name id => scope id
  | .constant (.str t _) => some (.string t)
  | .constant c => some (.literal c)
  | .attribute value attr => (value.eval scope).bind (·.attr w (.ofString attr))
  | .subscript value index =>
    (value.eval scope).bind fun record => (index.eval scope).bind record.item
  | .call function arguments keywords =>
    (function.eval scope).bind fun f => (evalEach scope arguments).bind fun xs =>
      (evalKeywords scope keywords).bind fun named => f.call w xs named
  | .dict entries => (evalEntries scope entries).map fun pairs => .record (Table.ofPairs pairs)
  | _ => none

/-- The values of some expressions. -/
def evalEach (scope : Scope ω) : List Expr → Option (List (Value ω))
  | [] => some []
  | e :: es => (e.eval scope).bind fun x => (evalEach scope es).map (x :: ·)

/-- The arguments that are given by name: one by one, or as the entries of a record. -/
def evalKeywords (scope : Scope ω) : List Keyword → Option (List (Text × Value ω))
  | [] => some []
  | .named name value :: rest =>
    (value.eval scope).bind fun x => (evalKeywords scope rest).map ((.ofString name, x) :: ·)
  | .spread value :: rest =>
    ((value.eval scope).bind Value.entries?).bind fun named =>
      (evalKeywords scope rest).map (named ++ ·)

/-- The pairs that the items of a record display stand for. -/
def evalEntries (scope : Scope ω) : List Entry → Option (List (Text × Value ω))
  | [] => some []
  | .pair key value :: rest =>
    ((key.eval scope).bind Value.string?).bind fun k => (value.eval scope).bind fun x =>
      (evalEntries scope rest).map ((k, x) :: ·)
  | .spread value :: rest =>
    ((value.eval scope).bind Value.entries?).bind fun pairs =>
      (evalEntries scope rest).map (pairs ++ ·)

end

/-- The scope of a function's body, where the parameter hides a global name. -/
def World.within (param : String) (x : Value ω) : Scope ω := fun id =>
  if id = param then some x else w.globals id

/-- What a function of one parameter gives for an argument. -/
def Expr.applyTo (function : Expr) (x : Value ω) : Option (Value ω) :=
  match function with
  | .lambda [.mk .positional param none none] body => body.eval w (w.within param x)
  | _ => none

/-- What the function of a global name gives for an argument. -/
def World.helper (name : String) (x : Value ω) : Option (Value ω) :=
  (w.globals name).bind (·.call w [x] [])

@[simp] theorem within_self (param : String) (x : Value ω) : w.within param x param = some x := by
  simp [World.within]

theorem within_of_ne {param id : String} (x : Value ω) (h : id ≠ param) :
    w.within param x id = w.globals id := by
  simp [World.within, h]

/-! ## The forms of generated code -/

attribute [local simp] Expr.eval evalEach evalKeywords evalEntries

variable (scope : Scope ω)

@[simp] theorem eval_name (id : String) : (Expr.name id).eval w scope = scope id := by
  rw [Expr.eval]

@[simp] theorem eval_str (t : Text) : (Expr.str t).eval w scope = some (.string t) := by
  rw [Expr.str, Expr.eval]

/-- A string constant for a name of the configuration has the text of the name. -/
@[simp] theorem eval_string (s : String) :
    (Expr.string s).eval w scope = some (.string (.ofString s)) := by
  rw [Expr.string, Expr.eval]

theorem eval_item (record : Expr) (key : Text) :
    (Expr.item record key).eval w scope = (record.eval w scope).bind (·.item (.string key)) := by
  rw [Expr.item, Expr.eval]
  simp

/-- An attribute is read alike, whether its name is written bare or looked up. -/
theorem eval_field (object : Expr) {name : Text} (hname : Text.ofString name.toString = name)
    (hgetattr : scope "getattr" = some .getattr) :
    (Expr.field object name).eval w scope = (object.eval w scope).bind (·.attr w name) := by
  unfold Expr.field
  split
  · rw [Expr.eval, hname]
  · cases h : object.eval w scope with
    | none => simp [Expr.eval, evalEach, h, hgetattr]
    | some x => simp [Expr.eval, evalEach, evalKeywords, h, hgetattr, Value.call]

theorem eval_apply (helper : String) (argument : Expr) :
    (Expr.apply helper argument).eval w scope =
      (scope helper).bind fun f => (argument.eval w scope).bind fun x => f.call w [x] [] := by
  rw [Expr.apply, Expr.eval, eval_name]
  simp only [evalEach, evalKeywords]
  cases argument.eval w scope with
  | none => simp
  | some x => simp

/-- A helper that the parameter does not hide is the one of the world. -/
theorem eval_apply_within {param helper : String} (h : helper ≠ param) (y : Value ω)
    (argument : Expr) :
    (Expr.apply helper argument).eval w (w.within param y) =
      (argument.eval w (w.within param y)).bind (w.helper helper) := by
  rw [eval_apply, within_of_ne w y h]
  cases argument.eval w (w.within param y) with
  | none => cases w.globals helper <;> rfl
  | some x => rfl

/-- The value of a dotted name depends on that of its root only. -/
theorem eval_foldl_attribute {scope scope' : Scope ω} {e : Expr} (attrs : List String)
    (h : e.eval w scope = e.eval w scope') :
    (attrs.foldl Expr.attribute e).eval w scope = (attrs.foldl Expr.attribute e).eval w scope' := by
  induction attrs generalizing e with
  | nil => exact h
  | cons attr attrs ih =>
    apply ih
    rw [Expr.eval, Expr.eval, h]

theorem eval_toExpr {scope scope' : Scope ω} (n : DottedName) (h : scope n.root = scope' n.root) :
    n.toExpr.eval w scope = n.toExpr.eval w scope' :=
  eval_foldl_attribute w n.attributes (by simpa using h)

theorem evalKeywords_append (ks ls : List Keyword) :
    evalKeywords w scope (ks ++ ls) =
      (evalKeywords w scope ks).bind fun xs => (evalKeywords w scope ls).map (xs ++ ·) := by
  induction ks with
  | nil => simp [evalKeywords]
  | cons k ks ih =>
    cases k with
    | named name value =>
      simp only [List.cons_append, evalKeywords, ih]
      cases value.eval w scope <;> cases evalKeywords w scope ks <;>
        cases evalKeywords w scope ls <;> rfl
    | spread value =>
      simp only [List.cons_append, evalKeywords, ih]
      cases (value.eval w scope).bind Value.entries? <;> cases evalKeywords w scope ks <;>
        cases evalKeywords w scope ls <;> simp

/-- Arguments by name that have values have them in their order. -/
theorem evalKeywords_map {α : Type} (items : List α) (name : α → String) (value : α → Expr)
    (result : α → Value ω) (h : ∀ a ∈ items, (value a).eval w scope = some (result a)) :
    evalKeywords w scope (items.map fun a => .named (name a) (value a)) =
      some (items.map fun a => (.ofString (name a), result a)) := by
  induction items with
  | nil => rw [List.map_nil, evalKeywords, List.map_nil]
  | cons a items ih =>
    have hrest := ih fun b hb => h b (List.mem_cons_of_mem a hb)
    rw [List.map_cons, evalKeywords, h a List.mem_cons_self, hrest]
    rfl

/-- Pairs of a display whose values have values have them in their order. -/
theorem evalEntries_map {α : Type} (items : List α) (key : α → Text) (value : α → Expr)
    (result : α → Value ω) (h : ∀ a ∈ items, (value a).eval w scope = some (result a)) :
    evalEntries w scope (items.map fun a => .pair (.str (key a)) (value a)) =
      some (items.map fun a => (key a, result a)) := by
  induction items with
  | nil => rw [List.map_nil, evalEntries, List.map_nil]
  | cons a items ih =>
    have hrest := ih fun b hb => h b (List.mem_cons_of_mem a hb)
    rw [List.map_cons, evalEntries, h a List.mem_cons_self, hrest, eval_str]
    rfl

end Crosswalk

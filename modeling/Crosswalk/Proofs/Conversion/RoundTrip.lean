import Crosswalk.Proofs.Conversion.Meaning
import Crosswalk.Proofs.Declaration
import Crosswalk.Proofs.Mapping.Grammar
import Mathlib.Data.List.Perm.Basic
import Mathlib.Tactic.Choose

/-!
# There and back

The two functions of a declaration undo each other: a record with the tag and the fields of a declaration
becomes a node, and this node becomes a record with the same entries. What it takes of the world that runs
the functions is in `World.Supports`.
-/

namespace Crosswalk

open Mapping (Field Mode)

variable {ω : Type} (w : World ω) (config : Config)

/-- For a field of the mode, what brings the value back undoes what carried it across. -/
def World.Restores (x : Value ω) : Mode → Prop
  | .direct => True
  | .recursive => (w.helper config.fromA x).bind (w.helper config.toA) = some x
  | .mappedList => (w.helper config.fromAList x).bind (w.helper config.toAList) = some x
  | .blockBody =>
    ((w.helper config.fromA x).bind (w.helper config.unwrapBlock)).bind
      (w.helper config.rewrapBlock) = some x

/-- The names of the arguments that a constructor is called with. -/
def argumentNames (fields : List Field) : List Text :=
  .ofString "start" :: .ofString "end" :: fields.map (·.bName)

/-- The keys of the records of a declaration. -/
def recordKeys (fields : List Field) : List Text := .ofString config.typeKey :: fields.map (·.aName)

/-- The names of the helpers that generated functions call. -/
def Config.helpers : List String :=
  [config.fromA, config.toA, config.fromAList, config.toAList, config.unwrapBlock, config.rewrapBlock,
    config.deriveStart, config.deriveEnd]

/-- What the functions of a declaration rely on when they run on a record. -/
structure World.Supports (d : Declaration) (fields : List Field)
    (record : List (Text × Value ω)) : Prop where
  /-- Attributes are looked up by the function that is called so. -/
  getattr : w.globals "getattr" = some .getattr
  /-- The constructor takes the arguments of the declaration by name and stores each under its name. -/
  stores : ∃ constructor, d.constructor.toExpr.eval w w.globals = some constructor ∧
    ∀ named : List (Text × Value ω), (named.map (·.1)).Perm (argumentNames fields) →
      ∃ node, constructor.call w [] named = some node ∧ ∀ a ∈ named, node.attr w a.1 = some a.2
  /-- A span can be derived from the record. -/
  start : (w.helper config.deriveStart (.record record)).isSome
  stop : (w.helper config.deriveEnd (.record record)).isSome
  /-- The helpers bring back each value of the record that they carry across. -/
  restores : ∀ f ∈ fields, ∀ x, (f.aName, x) ∈ record → w.Restores config x f.mode

/-! ## One field -/

/-- What the field's value on the B side is for a value on the A side. -/
def World.across (x : Value ω) : Mode → Option (Value ω)
  | .direct => some x
  | .recursive => w.helper config.fromA x
  | .mappedList => w.helper config.fromAList x
  | .blockBody => (w.helper config.fromA x).bind (w.helper config.unwrapBlock)

/-- What the field's value on the A side is for a value on the B side. -/
def World.back (x : Value ω) : Mode → Option (Value ω)
  | .direct => some x
  | .recursive => w.helper config.toA x
  | .mappedList => w.helper config.toAList x
  | .blockBody => w.helper config.rewrapBlock x

/-- A value that is restored is carried across, and back from there. -/
theorem exists_across {x : Value ω} {mode : Mode} (h : w.Restores config x mode) :
    ∃ y, w.across config x mode = some y ∧ w.back config y mode = some x := by
  cases mode with
  | direct => exact ⟨x, rfl, rfl⟩
  | recursive => exact Option.bind_eq_some_iff.1 h
  | mappedList => exact Option.bind_eq_some_iff.1 h
  | blockBody => exact Option.bind_eq_some_iff.1 h

variable {w config}

/-- The value for the B side reads the field of the record and carries it across. -/
theorem eval_aToB (hparam : config.param ∉ config.helpers) (f : Field) {record x : Value ω}
    (hx : record.item (.string f.aName) = some x) :
    (f.values config).aToB.eval w (w.within config.param record) = w.across config x f.mode := by
  have hne : ∀ helper ∈ config.helpers, helper ≠ config.param := fun helper h =>
    ne_of_mem_of_not_mem h hparam
  have hitem : (Expr.item (.name config.param) f.aName).eval w (w.within config.param record) =
      some x := by
    rw [eval_item, eval_name, within_self, Option.bind_some, hx]
  unfold Field.values
  cases f.mode with
  | direct => exact hitem
  | recursive =>
    show (Expr.apply config.fromA _).eval w _ = _
    rw [eval_apply_within w (hne config.fromA (by simp [Config.helpers])), hitem]
    rfl
  | mappedList =>
    show (Expr.apply config.fromAList _).eval w _ = _
    rw [eval_apply_within w (hne config.fromAList (by simp [Config.helpers])), hitem]
    rfl
  | blockBody =>
    show (Expr.apply config.unwrapBlock (.apply config.fromA _)).eval w _ = _
    rw [eval_apply_within w (hne config.unwrapBlock (by simp [Config.helpers])),
      eval_apply_within w (hne config.fromA (by simp [Config.helpers])), hitem]
    rfl

/-- The value for the A side reads the field of the node and brings it back. -/
theorem eval_bToA (hparam : config.param ∉ config.helpers) (hname : config.param ≠ "getattr")
    (hgetattr : w.globals "getattr" = some .getattr) (f : Field)
    (hword : Text.ofString f.bName.toString = f.bName) {node x : Value ω}
    (hx : node.attr w f.bName = some x) :
    (f.values config).bToA.eval w (w.within config.param node) = w.back config x f.mode := by
  have hne : ∀ helper ∈ config.helpers, helper ≠ config.param := fun helper h =>
    ne_of_mem_of_not_mem h hparam
  have hfield : (Expr.field (.name config.param) f.bName).eval w (w.within config.param node) =
      some x := by
    have hscope : w.within config.param node "getattr" = some .getattr := by
      rw [within_of_ne w node (Ne.symm hname), hgetattr]
    rw [eval_field w _ _ hword hscope, eval_name, within_self, Option.bind_some, hx]
  unfold Field.values
  cases f.mode with
  | direct => exact hfield
  | recursive =>
    show (Expr.apply config.toA _).eval w _ = _
    rw [eval_apply_within w (hne config.toA (by simp [Config.helpers])), hfield]
    rfl
  | mappedList =>
    show (Expr.apply config.toAList _).eval w _ = _
    rw [eval_apply_within w (hne config.toAList (by simp [Config.helpers])), hfield]
    rfl
  | blockBody =>
    show (Expr.apply config.rewrapBlock _).eval w _ = _
    rw [eval_apply_within w (hne config.rewrapBlock (by simp [Config.helpers])), hfield]
    rfl

/-! ## The arguments of the constructor -/

/-- The fields in the order in which a constructor receives them: those whose names can be written bare
come first. -/
def inCallOrder (fields : List Field) : List Field :=
  fields.filter (·.bName.isBareName) ++ fields.filter fun f => !f.bName.isBareName

theorem inCallOrder_perm (fields : List Field) : (inCallOrder fields).Perm fields :=
  List.filter_append_perm _ fields

/-- Fields whose names cannot be written bare are passed in one dict, if there are any. -/
theorem Conversion.spread_eq_or (config : Config) (fields : List Field) :
    (fields.filter fun f => !f.bName.isBareName) = [] ∧ spread config fields = [] ∨
      spread config fields = [.spread (.dict ((fields.filter fun f => !f.bName.isBareName).map fun f =>
        .pair (.str f.bName) (f.values config).aToB))] := by
  unfold spread
  dsimp only
  split
  · rename_i hempty
    exact .inl ⟨List.isEmpty_iff.1 hempty, rfl⟩
  · exact .inr rfl

section

variable {scope : Scope ω} {fields : List Field} {result : Field → Value ω}

theorem evalKeywords_named (hword : ∀ f ∈ fields, Text.ofString f.bName.toString = f.bName)
    (h : ∀ f ∈ fields, (f.values config).aToB.eval w scope = some (result f)) :
    evalKeywords w scope (Conversion.named config fields) =
      some ((fields.filter (·.bName.isBareName)).map fun f => (f.bName, result f)) := by
  unfold Conversion.named
  have hmem : ∀ f ∈ fields.filter (·.bName.isBareName), f ∈ fields := fun f hf => (List.mem_filter.1 hf).1
  rw [evalKeywords_map w scope _ _ _ result fun f hf => h f (hmem f hf)]
  congr 1
  apply List.map_congr_left
  intro f hf
  rw [hword f (hmem f hf)]

/-- The dict of the fields whose names cannot be written bare passes them as they are. -/
theorem evalKeywords_spread (hnodup : (fields.map (·.bName)).Nodup)
    (h : ∀ f ∈ fields, (f.values config).aToB.eval w scope = some (result f)) :
    evalKeywords w scope (Conversion.spread config fields) =
      some ((fields.filter fun f => !f.bName.isBareName).map fun f => (f.bName, result f)) := by
  rcases Conversion.spread_eq_or config fields with ⟨hempty, hspread⟩ | hspread
  · rw [hspread, hempty, evalKeywords, List.map_nil]
  · set rest := fields.filter fun f => !f.bName.isBareName
    have hmem : ∀ f ∈ rest, f ∈ fields := fun f hf => (List.mem_filter.1 hf).1
    have hkeys : ((rest.map fun f => (f.bName, result f)).map (·.1)).Nodup := by
      rw [List.map_map]
      exact hnodup.sublist (List.filter_sublist.map _)
    rw [hspread, evalKeywords, Expr.eval, evalEntries_map w scope rest _ _ result fun f hf => h f (hmem f hf),
      Option.map_some, Table.ofPairs_eq_self hkeys]
    simp [Value.entries?, evalKeywords]

theorem evalKeywords_span {start stop record : Value ω} (hparam : config.param ∉ config.helpers)
    (hstart : w.helper config.deriveStart record = some start)
    (hstop : w.helper config.deriveEnd record = some stop) :
    evalKeywords w (w.within config.param record) (Conversion.span config) =
      some [(.ofString "start", start), (.ofString "end", stop)] := by
  have hne : ∀ helper ∈ config.helpers, helper ≠ config.param := fun helper h =>
    ne_of_mem_of_not_mem h hparam
  have hs : (Expr.apply config.deriveStart (.name config.param)).eval w (w.within config.param record) =
      some start := by
    rw [eval_apply_within w (hne config.deriveStart (by simp [Config.helpers])), eval_name, within_self,
      Option.bind_some, hstart]
  have he : (Expr.apply config.deriveEnd (.name config.param)).eval w (w.within config.param record) =
      some stop := by
    rw [eval_apply_within w (hne config.deriveEnd (by simp [Config.helpers])), eval_name, within_self,
      Option.bind_some, hstop]
  unfold Conversion.span
  simp only [evalKeywords, hs, he]
  rfl

end

/-! ## The two functions -/

section

variable {d : Declaration} {fields : List Field} {record : List (Text × Value ω)}

/-- From A to B: the constructor is called once, and its node has the span and the value of each field
under its name. -/
theorem exists_applyTo_aToB {across : Field → Value ω} (hparam : config.param ∉ config.helpers)
    (hroot : config.param ≠ d.constructor.root) (hb : (argumentNames fields).Nodup)
    (hword : ∀ f ∈ fields, Text.ofString f.bName.toString = f.bName)
    (hw : w.Supports config d fields record)
    (hvalue : ∀ f ∈ fields,
      (f.values config).aToB.eval w (w.within config.param (.record record)) = some (across f)) :
    ∃ node, (Conversion.ofFields config d fields).aToB.applyTo w (.record record) = some node ∧
      ∀ f ∈ fields, node.attr w f.bName = some (across f) := by
  obtain ⟨constructor, hconstructor, hstores⟩ := hw.stores
  obtain ⟨start, hstart⟩ := Option.isSome_iff_exists.1 hw.start
  obtain ⟨stop, hstop⟩ := Option.isSome_iff_exists.1 hw.stop
  have hnodup : (fields.map (·.bName)).Nodup := (List.nodup_cons.1 (List.nodup_cons.1 hb).2).2
  set named : List (Text × Value ω) := (.ofString "start", start) :: (.ofString "end", stop) ::
    (inCallOrder fields).map fun f => (f.bName, across f) with hnamed
  have hkeywords : evalKeywords w (w.within config.param (.record record))
      (Conversion.span config ++ Conversion.named config fields ++ Conversion.spread config fields) =
        some named := by
    rw [evalKeywords_append, evalKeywords_append, evalKeywords_span hparam hstart hstop,
      evalKeywords_named hword hvalue, evalKeywords_spread hnodup hvalue]
    simp [hnamed, inCallOrder]
  have hnames : (named.map (·.1)).Perm (argumentNames fields) := by
    rw [hnamed, argumentNames, List.map_cons, List.map_cons, List.map_map]
    exact (((inCallOrder_perm fields).map _).cons _).cons _
  obtain ⟨node, hcall, hattr⟩ := hstores named hnames
  refine ⟨node, ?_, fun f hf => ?_⟩
  · show (Conversion.node config d.constructor fields).eval w _ = some node
    -- the parameter hides no part of the constructor's name
    have heval : d.constructor.toExpr.eval w (w.within config.param (.record record)) =
        some constructor := by
      rw [← hconstructor]
      exact eval_toExpr w d.constructor (within_of_ne w _ (Ne.symm hroot))
    rw [Conversion.node, Expr.eval, heval, hkeywords]
    exact hcall
  · have hmem : (f.bName, across f) ∈ named := by
      have hf' : f ∈ inCallOrder fields := (inCallOrder_perm fields).mem_iff.2 hf
      exact List.mem_cons_of_mem _ (List.mem_cons_of_mem _ (List.mem_map_of_mem hf'))
    exact hattr _ hmem

/-- From B to A: the record is made of the tag and then the fields in the order of the mapping. -/
theorem applyTo_bToA_eq_ofPairs {node : Value ω} {value : Field → Value ω}
    (hvalue : ∀ f ∈ fields,
      (f.values config).bToA.eval w (w.within config.param node) = some (value f)) :
    (Conversion.ofFields config d fields).bToA.applyTo w node =
      some (.record (Table.ofPairs ((.ofString config.typeKey, .string d.tag) ::
        fields.map fun f => (f.aName, value f)))) := by
  show (Conversion.record config d.tag fields).eval w _ = _
  rw [Conversion.record, Expr.eval, evalEntries, evalEntries_map w _ fields _ _ value hvalue]
  simp only [eval_string, eval_str, Value.string?, Option.bind_some, Option.map_some]

/-- With distinct keys the record has the tag and the fields as they stand. -/
theorem applyTo_bToA {node : Value ω} {value : Field → Value ω} (ha : (recordKeys config fields).Nodup)
    (hvalue : ∀ f ∈ fields,
      (f.values config).bToA.eval w (w.within config.param node) = some (value f)) :
    (Conversion.ofFields config d fields).bToA.applyTo w node =
      some (.record ((.ofString config.typeKey, .string d.tag) ::
        fields.map fun f => (f.aName, value f))) := by
  have hkeys : (((Text.ofString config.typeKey, Value.string d.tag) ::
      fields.map fun f => (f.aName, value f)).map (·.1)).Nodup := by
    rw [List.map_cons, List.map_map]
    exact ha
  rw [applyTo_bToA_eq_ofPairs hvalue, Table.ofPairs_eq_self hkeys]

/-- A record whose entries are those of the declaration has them in one order or another. -/
theorem perm_of_keys {value : Field → Value ω} (ha : (recordKeys config fields).Nodup)
    (hkeys : (record.map (·.1)).Perm (recordKeys config fields))
    (htag : (Text.ofString config.typeKey, Value.string d.tag) ∈ record)
    (hvalue : ∀ f ∈ fields, (f.aName, value f) ∈ record) :
    ((Text.ofString config.typeKey, Value.string d.tag) ::
      fields.map fun f => (f.aName, value f)).Perm record := by
  set back := (Text.ofString config.typeKey, Value.string d.tag) ::
    fields.map fun f => (f.aName, value f) with hback
  have hbackKeys : back.map (·.1) = recordKeys config fields := by
    rw [hback, List.map_cons, List.map_map]
    rfl
  have hrecord : (record.map (·.1)).Nodup := hkeys.nodup_iff.2 ha
  have hnodup : back.Nodup := (hbackKeys ▸ ha).of_map
  -- an entry of either list is in the other one, since its key is in both
  have hsub : ∀ a ∈ back, a ∈ record := by
    intro a ha
    rcases List.mem_cons.1 ha with rfl | ha
    · exact htag
    · obtain ⟨f, hf, rfl⟩ := List.mem_map.1 ha
      exact hvalue f hf
  rw [List.perm_ext_iff_of_nodup hnodup hrecord.of_map]
  refine fun a => ⟨hsub a, fun hmem => ?_⟩
  have hkey : a.1 ∈ back.map (·.1) := by
    rw [hbackKeys]
    exact hkeys.mem_iff.1 (List.mem_map_of_mem hmem)
  obtain ⟨b, hb, hba⟩ := List.mem_map.1 hkey
  have heq : a = b := List.inj_on_of_nodup_map hrecord hmem (hsub b hb) hba.symm
  exact heq ▸ hb

end

variable (w config)

/-- The functions of a declaration undo each other: a record with the tag and the fields of the declaration,
in any order, becomes a node, and the node becomes a record with the same entries. -/
theorem bToA_aToB (d : Declaration) (c : Conversion) (record : List (Text × Value ω))
    (hc : Conversion.compile config d = .ok c)
    (ha : (recordKeys config c.fields).Nodup) (hb : (argumentNames c.fields).Nodup)
    (hparam : config.param ∉ "getattr" :: d.constructor.root :: config.helpers)
    (hkeys : (record.map (·.1)).Perm (recordKeys config c.fields))
    (htag : (.ofString config.typeKey, .string d.tag) ∈ record)
    (hw : w.Supports config d c.fields record) :
    ∃ node back, c.aToB.applyTo w (.record record) = some node ∧
      c.bToA.applyTo w node = some (.record back) ∧ back.Perm record := by
  obtain ⟨fields, hfields, rfl⟩ := Conversion.compile_eq_ok_iff.1 hc
  change (recordKeys config fields).Nodup at ha
  change (argumentNames fields).Nodup at hb
  change (record.map (·.1)).Perm (recordKeys config fields) at hkeys
  change w.Supports config d fields record at hw
  simp only [List.mem_cons, not_or] at hparam
  obtain ⟨hgetattr, hroot, hhelpers⟩ := hparam
  have hword : ∀ f ∈ fields, Text.ofString f.bName.toString = f.bName := fun f hf =>
    Mapping.ofString_toString_of_isWord (Mapping.isWord_of_fields hfields f hf).2
  -- each field has a value in the record, one on the B side, and the first one again on the way back
  have hvalues : ∀ f ∈ fields, ∃ x y, (f.aName, x) ∈ record ∧
      Table.get? record f.aName = some x ∧ w.across config x f.mode = some y ∧
      w.back config y f.mode = some x := by
    intro f hf
    have hkey : f.aName ∈ Table.keys record :=
      hkeys.mem_iff.2 (List.mem_cons_of_mem _ (List.mem_map_of_mem hf))
    obtain ⟨x, hx⟩ := Table.exists_get?_of_mem_keys hkey
    have hmem := Table.mem_of_get? hx
    obtain ⟨y, hy, hback⟩ := exists_across w config (hw.restores f hf x hmem)
    exact ⟨x, y, hmem, hx, hy, hback⟩
  choose! x y hmem hget hacross hback using hvalues
  have haToB : ∀ f ∈ fields,
      (f.values config).aToB.eval w (w.within config.param (.record record)) = some (y f) := by
    intro f hf
    have hitem : (Value.record record).item (.string f.aName) = some (x f) := hget f hf
    rw [eval_aToB hhelpers f hitem]
    exact hacross f hf
  obtain ⟨node, hnode, hattr⟩ := exists_applyTo_aToB hhelpers hroot hb hword hw haToB
  have hbToA : ∀ f ∈ fields,
      (f.values config).bToA.eval w (w.within config.param node) = some (x f) := by
    intro f hf
    rw [eval_bToA hhelpers hgetattr hw.getattr f (hword f hf) (hattr f hf)]
    exact hback f hf
  exact ⟨node, _, hnode, applyTo_bToA ha hbToA, perm_of_keys ha hkeys htag hmem⟩

/-! ## A world in which a declaration runs -/

/-- The values of a small world: a module with one class and the helpers, the nodes of the class, what the
converters make of a value, and the statements of a block. -/
inductive Thing
  | module
  | loop
  | helper (name : String)
  | node (attributes : List (Text × Value Thing))
  | converted (x : Value Thing)
  | statements (x : Value Thing)

namespace Thing

/-- What the helpers of the default configuration give. -/
def help : String → Value Thing → Option (Value Thing)
  | "from_A", x => some (.other (.converted x))
  | "to_A", .other (.converted x) => some x
  | "from_A_list", x => some (.other (.converted x))
  | "to_A_list", .other (.converted x) => some x
  | "unwrap_block", .other (.converted x) => some (.other (.statements x))
  | "rewrap_block", .other (.statements x) => some x
  | "derive_start", .record _ => some (.literal (.int 4))
  | "derive_end", .record _ => some (.literal (.int 9))
  | _, _ => none

/-- The class makes a node of its arguments. -/
def world : World Thing where
  globals id :=
    if id = "getattr" then some .getattr
    else if id = "nodes" then some (.other .module)
    else some (.other (.helper id))
  attr
    | .module, name => if name = .ofString "Loop" then some (.other .loop) else none
    | .node attributes, name => Table.get? attributes name
    | _, _ => none
  call
    | .loop, [], named => some (.other (.node named))
    | .helper name, [x], [] => help name x
    | _, _, _ => none

/-- A field of each mode. Two of the names on the B side cannot be written bare. -/
def fields : List Field :=
  [⟨.ofString "label", .ofString "name", .direct, 0⟩, ⟨.ofString "test", .ofString "class", .recursive, 12⟩,
    ⟨.ofString "items", .ofString "$items", .mappedList, 24⟩,
    ⟨.ofString "body", .ofString "body", .blockBody, 38⟩]

def declaration : Declaration :=
  ⟨.ofString "Loop", ⟨"nodes", ["Loop"]⟩,
    some (.ofString "label=name, test>class, items@$items, body%body"), ⟨1, 0⟩⟩

/-- A record of the declaration, with the tag in the middle. -/
def record : List (Text × Value Thing) :=
  [(.ofString "body", .string (.ofString "b")), (.ofString "test", .string (.ofString "t")),
    (.ofString "type", .string (.ofString "Loop")), (.ofString "label", .literal .none),
    (.ofString "items", .record [])]

theorem lists_fields :
    Mapping.Lists 0 (.ofString "label=name, test>class, items@$items, body%body") fields := by
  have hbody : Mapping.Lists 37 (.ofString " body%body") (fields.drop 3) :=
    .last 37 (.ofString " ") [] ⟨.ofString "body", .ofString "body", .blockBody, 38⟩ rfl rfl
      (Mapping.isWord_ofString rfl rfl) (Mapping.isWord_ofString rfl rfl) rfl
  have hitems : Mapping.Lists 23 (.ofString " items@$items, body%body") (fields.drop 2) :=
    .more 23 (.ofString " ") [] _ ⟨.ofString "items", .ofString "$items", .mappedList, 24⟩ _ rfl rfl
      (Mapping.isWord_ofString rfl rfl) (Mapping.isWord_ofString rfl rfl) rfl hbody
  have htest : Mapping.Lists 11 (.ofString " test>class, items@$items, body%body") (fields.drop 1) :=
    .more 11 (.ofString " ") [] _ ⟨.ofString "test", .ofString "class", .recursive, 12⟩ _ rfl rfl
      (Mapping.isWord_ofString rfl rfl) (Mapping.isWord_ofString rfl rfl) rfl hitems
  exact .more 0 [] [] _ ⟨.ofString "label", .ofString "name", .direct, 0⟩ _ rfl rfl
    (Mapping.isWord_ofString rfl rfl) (Mapping.isWord_ofString rfl rfl) rfl htest

theorem compile_declaration :
    Conversion.compile {} declaration = .ok (.ofFields {} declaration fields) := by
  have hparse := Mapping.parse_eq_ok_iff.2 (.inr lists_fields)
  show ((Mapping.parse _).mapError _).map _ = _
  rw [hparse]
  rfl

theorem supports : world.Supports {} declaration fields record where
  getattr := rfl
  stores := by
    refine ⟨.other .loop, rfl, fun named hnamed => ⟨.other (.node named), ?_, ?_⟩⟩
    · have hnodup : (named.map (·.1)).Nodup := hnamed.nodup_iff.2 (by decide)
      show (if (named.map (·.1)).Nodup then _ else none) = _
      rw [if_pos hnodup]
      rfl
    · intro a ha
      have hnodup : (Table.keys named).Nodup := hnamed.nodup_iff.2 (by decide)
      exact (Table.get?_eq_some_iff hnodup).2 ha
  start := rfl
  stop := rfl
  restores := by
    intro f hf x hx
    simp only [fields, List.mem_cons, List.not_mem_nil, or_false] at hf
    rcases hf with rfl | rfl | rfl | rfl
    · trivial
    · rfl
    · rfl
    · rfl

end Thing

/-- The functions of the declaration undo each other on the record. -/
theorem bToA_aToB_loop :
    (recordKeys {} Thing.fields).Nodup ∧ (argumentNames Thing.fields).Nodup ∧
      ∃ node back, (Conversion.ofFields {} Thing.declaration Thing.fields).aToB.applyTo Thing.world
          (.record Thing.record) = some node ∧
        (Conversion.ofFields {} Thing.declaration Thing.fields).bToA.applyTo Thing.world node =
          some (.record back) ∧ back.Perm Thing.record := by
  have ha : (recordKeys {} Thing.fields).Nodup := by decide
  have hb : (argumentNames Thing.fields).Nodup := by decide
  have hkeys : (Thing.record.map (·.1)).Perm (recordKeys {} Thing.fields) := by decide
  have htag : (Text.ofString "type", Value.string (.ofString "Loop")) ∈ Thing.record := by
    simp [Thing.record]
  exact ⟨ha, hb, bToA_aToB Thing.world {} Thing.declaration _ Thing.record Thing.compile_declaration ha hb
    (by decide) hkeys htag Thing.supports⟩

end Crosswalk

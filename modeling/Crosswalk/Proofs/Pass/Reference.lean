import Crosswalk.Proofs.Declaration.Shape
import Crosswalk.Proofs.Pass.Run
import Crosswalk.Proofs.Tree.Tidy

/-!
# References and the functions from B to A

The functions from B to A are kept by the texts of constructors, and declarations write constructors as expressions.
In a source that is read the texts tell the expressions apart, since no name in them holds a dot. So a declaration is
refused for its constructor just if an earlier one is written with the same reference: `compile_references`.
-/

namespace Crosswalk

/-- Declarations have no declarations in them. -/
theorem Tree.declarations_eq_self {name : String} {ss : List Stmt} (h : ∀ s ∈ ss, s.isDeclaration name = true) :
    Tree.declarations name ss = ss := by
  induction ss with
  | nil => rfl
  | cons s rest ih =>
    obtain ⟨hs, hrest⟩ := List.forall_mem_cons.1 h
    obtain ⟨arguments, keywords, heq⟩ := Stmt.exists_simple_of_isDeclaration hs
    rw [Tree.declarations_cons, ih hrest, List.filter_singleton, hs, heq]
    simp [Suite.all, Tree.declarations, flattenAll]

namespace Pass

/-- The declarations before one have all been visited, and the one is compiled: it is to be added to the registry
next. -/
structure Reaches (config : Config) (file : Option String) (t : Tree) (before : List Stmt) (r : Registry)
    (stmt : Stmt) (c : Conversion) : Prop where
  split : ∃ after, t.declarations config.declarationName = before ++ stmt :: after
  visited : ∃ start seat registrations w, Registry.locate config.seedTable file t = .ok (start, seat) ∧
    (visitAll config file ⟨start, []⟩ before).result = .ok (registrations, w) ∧ w.registry = r
  converted : convert config file stmt = .ok c

variable {config : Config} {file : Option String} {t : Tree} {before : List Stmt} {r : Registry} {stmt : Stmt}
  {c : Conversion}

/-- A declaration refers to its constructor by the expression of its dotted name. -/
theorem reference?_of_convert (hs : stmt.isDeclaration config.declarationName = true)
    (h : convert config file stmt = .ok c) : stmt.reference? = some c.declaration.constructor.toExpr :=
  Declaration.reference?_of_read hs (convert_eq_ok_iff.1 h).1

/-- What a declaration of a tidy tree refers to by name has no dot in its names. -/
theorem isDotless_reference? (ht : t.IsTidy) (hs : stmt ∈ t.declarations config.declarationName) {e : Expr}
    (he : stmt.reference? = some e) : e.IsDotless := by
  obtain ⟨hmem, hs⟩ := List.mem_filter.1 hs
  obtain ⟨arguments, keywords, hsimple⟩ := Stmt.exists_simple_of_isDeclaration hs
  have htidy := ht _ hmem
  rw [hsimple] at he htidy
  exact htidy.arguments e (List.mem_of_getElem? he)

/-- Just what the declarations so far are compiled to has been added. -/
theorem Reaches.exists_added (h : Reaches config file t before r stmt c) : ∃ pairs cs,
    r = (Registry.start (.ofPairs pairs)).extend cs ∧ before.map (convert config file) = cs.map .ok := by
  obtain ⟨after, hsplit⟩ := h.split
  have hbefore : Tree.declarations config.declarationName before = before := by
    refine Tree.declarations_eq_self fun s hs => ?_
    have hmem : s ∈ t.declarations config.declarationName := hsplit ▸ List.mem_append_left _ hs
    exact (List.mem_filter.1 hmem).2
  obtain ⟨start, seat, registrations, w, hstart, hvisit, rfl⟩ := h.visited
  obtain ⟨seed, pairs, -, -, rfl⟩ := Registry.locate_eq_ok_iff.1 hstart
  rw [visitAll_eq, hbefore, Outcome.result_bind_eq_ok] at hvisit
  obtain ⟨w', henlist, hw⟩ := hvisit
  cases hw
  obtain ⟨cs, hcs, rfl, -⟩ := added_of_enlistAll (w := .start pairs) (Registry.distinct_ofPairs pairs) henlist
  refine ⟨pairs, cs, rfl, ?_⟩
  rw [← List.forall₂_eq_eq_eq, List.forall₂_map_left_iff, List.forall₂_map_right_iff]
  exact hcs

/-- Of a tidy tree a constructor has a function from B to A just if an earlier declaration is written with the same
reference as the next one. -/
theorem Reaches.mem_keys_iff (h : Reaches config file t before r stmt c) (ht : t.IsTidy) :
    c.declaration.constructor.text ∈ r.bToA.keys ↔ ∃ earlier ∈ before, earlier.reference? = stmt.reference? := by
  obtain ⟨after, hsplit⟩ := h.split
  have hstmt : stmt ∈ t.declarations config.declarationName :=
    hsplit ▸ List.mem_append_right _ List.mem_cons_self
  have hbefore (s : Stmt) (hs : s ∈ before) : s ∈ t.declarations config.declarationName :=
    hsplit ▸ List.mem_append_left _ hs
  have hreference {s : Stmt} {c : Conversion} (hs : s ∈ t.declarations config.declarationName)
      (hc : convert config file s = .ok c) :
      s.reference? = some c.declaration.constructor.toExpr ∧ c.declaration.constructor.IsDotless := by
    have hs' := reference?_of_convert (List.mem_filter.1 hs).2 hc
    exact ⟨hs', isDotless_reference? ht hs hs' _ (Expr.dottedName?_toExpr _)⟩
  obtain ⟨heq, hdotless⟩ := hreference hstmt h.converted
  obtain ⟨pairs, cs, rfl, hadded⟩ := h.exists_added
  have hkeys : c.declaration.constructor.text ∈ ((Registry.start (.ofPairs pairs)).extend cs).bToA.keys ↔
      ∃ c' ∈ cs, c'.declaration.constructor.text = c.declaration.constructor.text := by
    rw [Registry.keys_bToA_extend]
    exact List.mem_map
  rw [hkeys, heq]
  constructor
  · rintro ⟨c', hc', htext⟩
    obtain ⟨s, hs, hconvert⟩ := List.mem_map.1 (hadded ▸ List.mem_map_of_mem hc')
    obtain ⟨heq', hdotless'⟩ := hreference (hbefore s hs) hconvert
    exact ⟨s, hs, by rw [heq', hdotless'.eq_of_text_eq hdotless htext]⟩
  · rintro ⟨s, hs, hsame⟩
    obtain ⟨c', hc', hconvert⟩ := List.mem_map.1 (hadded ▸ List.mem_map_of_mem hs)
    obtain ⟨heq', -⟩ := hreference (hbefore s hs) hconvert.symm
    rw [heq'] at hsame
    exact ⟨c', hc', congrArg DottedName.text (DottedName.toExpr_injective (Option.some.inj hsame))⟩

end Pass

/-- The references are the expressions with a dotted name, which is their text, and references without dots in their
names are told apart by it. Such are the references in the declarations of a source that is read. So if the tag of the
next declaration of a pass is new, it is refused just if an earlier one is written with the same reference, and then
for its constructor. -/
theorem compile_references {s : Source} (hread : Tree.read s.code = .ok s.tree) (config : Config) :
    (∀ e : Expr, ((∃ n, e.dottedName? = some n) ↔ e.IsReference) ∧
      ∀ n, e.dottedName? = some n → e.print = .ok n.text) ∧
    (∀ (e e' : Expr) (n n' : DottedName), e.dottedName? = some n → e'.dottedName? = some n' →
      n.IsDotless → n'.IsDotless → n.text = n'.text → e = e') ∧
    (∀ stmt ∈ s.tree.declarations config.declarationName, ∀ e, stmt.reference? = some e → e.IsDotless) ∧
    ∀ before r stmt c, Pass.Reaches config s.file s.tree before r stmt c → c.declaration.tag ∉ r.aToB.keys →
      ∀ cause, r.add c = .error cause ↔
        .duplicate (.ofString "B constructor") (.ofString c.declaration.constructor.text) = cause ∧
          ∃ earlier ∈ before, earlier.reference? = stmt.reference? := by
  have htidy := Tree.isTidy_read hread
  refine ⟨fun e => ⟨Expr.exists_dottedName?_iff, fun n => Expr.print_eq_ok_of_dottedName?⟩,
    fun e e' n n' he he' hn hn' htext => ?_, fun stmt hstmt e => Pass.isDotless_reference? htidy hstmt,
    fun before r stmt c h htag cause => ?_⟩
  · rw [Expr.dottedName?_eq_some_iff] at he he'
    rw [he, he', hn.eq_of_text_eq hn' htext]
  · rw [Registry.add_eq_error_iff, h.mem_keys_iff htidy]
    simp [htag, and_comm]

namespace Sample

/-- The statement that declares a tag with an attribute of a module as its constructor. -/
def qualified (span : Span) (tag constructor : String) : Stmt :=
  .simple span (.expr (.call (.name "map") [.string tag, .attribute (.name "m") constructor] []))

/-- A source with two declarations of one constructor. -/
def sharing : Source :=
  ⟨"<string>", none, "A_TO_B = {}\nmap('A', m.C)\nmap('B', m.C)\n",
    [.simple ⟨1, 0, 1, 11⟩ (.assign [.name "A_TO_B"] (.dict []) ⟨1, 9⟩),
      qualified ⟨2, 0, 2, 13⟩ "A" "C", qualified ⟨3, 0, 3, 13⟩ "B" "C"], false⟩

theorem read_sharing : Tree.read sharing.code = .ok sharing.tree := by
  refine Tree.read_eq_ok_iff.2 ⟨?_, sharing.tree, [], ?_, ?_, Comment.place_nil _ _⟩ <;> decide +kernel

/-- What a declaration in it is compiled to. -/
def shared (tag : String) (pos : Pos) : Conversion :=
  .ofFields {} ⟨.ofString tag, ⟨"m", ["C"]⟩, none, pos⟩ []

/-- The registry when the first declaration has been added. -/
def sharedRegistry : Registry where
  aToB := [(.ofString "A", (shared "A" ⟨2, 0⟩).aToB)]
  bToA := [("m.C", (shared "A" ⟨2, 0⟩).bToA)]
  seedSize := 0

theorem reaches_sharing : Pass.Reaches {} sharing.file sharing.tree [qualified ⟨2, 0, 2, 13⟩ "A" "C"]
    sharedRegistry (qualified ⟨3, 0, 3, 13⟩ "B" "C") (shared "B" ⟨3, 0⟩) :=
  ⟨⟨[], rfl⟩, ⟨⟨[], [], 0⟩, .here 0, _, _, rfl, rfl, rfl⟩, rfl⟩

end Sample

/-- The second of two declarations with one reference is refused for its constructor. -/
theorem compile_references_sample : Tree.read Sample.sharing.code = .ok Sample.sharing.tree ∧
    Pass.Reaches {} Sample.sharing.file Sample.sharing.tree [Sample.qualified ⟨2, 0, 2, 13⟩ "A" "C"]
      Sample.sharedRegistry (Sample.qualified ⟨3, 0, 3, 13⟩ "B" "C") (Sample.shared "B" ⟨3, 0⟩) ∧
    (Sample.qualified ⟨3, 0, 3, 13⟩ "B" "C").reference? = some (.attribute (.name "m") "C") ∧
    (Expr.attribute (.name "m") "C").IsDotless ∧
    Registry.add (Sample.shared "B" ⟨3, 0⟩) Sample.sharedRegistry =
      .error (.duplicate (.ofString "B constructor") (.ofString "m.C")) := by
  obtain ⟨-, -, hdotless, hadd⟩ := compile_references Sample.read_sharing {}
  refine ⟨Sample.read_sharing, Sample.reaches_sharing, rfl, ?_, ?_⟩
  · exact hdotless (Sample.qualified ⟨3, 0, 3, 13⟩ "B" "C") (List.mem_of_getElem? (i := 1) rfl) _ rfl
  · exact (hadd _ _ _ _ Sample.reaches_sharing (by decide) _).2 ⟨rfl, _, List.mem_singleton.2 rfl, rfl⟩

end Crosswalk

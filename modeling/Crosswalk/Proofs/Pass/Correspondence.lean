import Crosswalk.Proofs.Pass.Frame

/-!
# Declarations and the entries they become

The two halves of a conversion go different ways: the function from A to B through the registry to the end of
the seed table, the function from B to A in place of the declaration. They still belong together: the
declarations of a source, one after the other, are what the new entries and the registrations come from, each
from one declaration alone. `Pass.Paired` says so of one declaration.
-/

namespace Crosswalk

/-- The places of the declarations of a tree, in the order of the source. -/
def Tree.declarationPlaces (name : String) (t : Tree) : List Place :=
  (places t).filter fun p => (p.stmt? t).any (·.isDeclaration name)

theorem mem_declarationPlaces {name : String} {t : Tree} {p : Place} :
    p ∈ t.declarationPlaces name ↔ ∃ s, p.stmt? t = some s ∧ s.isDeclaration name = true := by
  rw [Tree.declarationPlaces, List.mem_filter, mem_places, Option.any_eq_true_iff_get]
  constructor
  · rintro ⟨hp, _, hs⟩
    exact ⟨_, Option.some_get hp |>.symm, hs⟩
  · rintro ⟨s, hp, hs⟩
    simp [hp, hs]

/-- The declarations of a tree are the statements at their places. -/
theorem declarations_eq (name : String) (t : Tree) :
    t.declarations name = (t.declarationPlaces name).filterMap (·.stmt? t) := by
  rw [Tree.declarations, flattenAll_eq, Tree.declarationPlaces, List.filter_filterMap,
    List.filterMap_filter]
  congr 1
  funext p
  cases p.stmt? t <;> simp [Option.filter]

theorem isSome_stmt?_of_mem_declarationPlaces {name : String} {t : Tree} :
    ∀ p ∈ t.declarationPlaces name, (p.stmt? t).isSome := by
  intro p hp
  obtain ⟨s, hs, -⟩ := mem_declarationPlaces.1 hp
  rw [hs]
  rfl

namespace Pass

/-- A declaration at a place of a tree, the conversion that it is compiled to by itself, and the registration
in its place in another tree. The registration repeats the constructor of the declaration. -/
inductive Paired (config : Config) (file : Option String) (t t' : Tree) (p : Place) (c : Conversion) : Prop
  | intro {s : Stmt} {span : Span} {isUnicode : Bool} {constructor : Expr} {more : List Expr}
      (statement : s = .simple span (.expr (.call (.name config.declarationName)
        (.constant (.str c.declaration.tag isUnicode) :: constructor :: more) [])))
      (before : p.stmt? t = some s)
      (read : Declaration.read file s = .ok c.declaration)
      (alone : Conversion.compile config c.declaration = .ok c)
      (after : p.stmt? t' = some (.simple span (.expr (.call (.name config.registerBToA)
        [constructor, c.bToA] []))))

variable {config : Config} {file : Option String} {t : Tree} {seed : SeedTable}
  {pairs : List (Text × Expr)} {r : Result}

/-- What the frame says of a declaration: its own conversion is registered in its place. -/
theorem Ended.stmt?_of_convert (h : Ended config file t seed pairs r) {p : Place} {s : Stmt} {c : Conversion}
    (hp : p.stmt? t = some s) (hs : s.isDeclaration config.declarationName = true)
    (hc : convert config file s = .ok c) : p.stmt? r.tree = some (c.registration s.span) := by
  obtain ⟨seat, hseat, -⟩ := Tree.seedTable?_eq_some_iff.1 h.found
  have hframe := h.frame hseat p
  rw [hp] at hframe
  generalize p.stmt? r.tree = after at hframe
  cases hframe with
  | some hframe =>
    -- compiling has one result, so the conversion of the frame is the one given
    cases hframe with
    | registration _ hc' => rw [Except.ok.inj (hc.symm.trans hc')]
    | seed _ hgrows => cases hgrows <;> exact absurd hs (by simp [Stmt.isDeclaration])
    | same hs' => exact absurd hs hs'

theorem Ended.paired (h : Ended config file t seed pairs r) {p : Place} {s : Stmt} {c : Conversion}
    (hp : p.stmt? t = some s) (hs : s.isDeclaration config.declarationName = true)
    (hc : convert config file s = .ok c) : Paired config file t r.tree p c := by
  have hafter := h.stmt?_of_convert hp hs hc
  obtain ⟨hread, halone⟩ := convert_eq_ok_iff.1 hc
  obtain ⟨arguments, keywords, hsimple⟩ := Stmt.exists_simple_of_isDeclaration hs
  obtain ⟨function, arguments', keywords', hvalue, hargs⟩ := Declaration.read_eq_ok_iff.1 hread
  -- the call that was read is the one that makes the statement a declaration
  have hsame : arguments' = arguments ∧ keywords' = keywords := by
    rw [hsimple] at hvalue
    cases hvalue
    exact ⟨rfl, rfl⟩
  obtain ⟨isUnicode, more, harguments, hkeywords⟩ := Declaration.exists_arguments hargs
  rw [← hsame.1, ← hsame.2, harguments, hkeywords] at hsimple
  rw [Conversion.registration, register_of_convert hc] at hafter
  exact .intro hsimple hp hread halone hafter

/-- The declarations in their order are paired with what was added in its order. -/
theorem Ended.forall₂_paired (h : Ended config file t seed pairs r) :
    List.Forall₂ (Paired config file t r.tree) (t.declarationPlaces config.declarationName) r.added := by
  have hpaired := h.compiled
  rw [declarations_eq, forall₂_filterMap_iff isSome_stmt?_of_mem_declarationPlaces] at hpaired
  -- the lists are compared index by index, since what is at an index is needed on both sides
  rw [List.forall₂_iff_get] at hpaired ⊢
  refine ⟨hpaired.1, fun i hi hi' => ?_⟩
  obtain ⟨s, hp, hc⟩ := hpaired.2 i hi hi'
  obtain ⟨s', hp', hs⟩ := mem_declarationPlaces.1 (List.getElem_mem hi)
  have hss : s' = s := Option.some.inj (hp'.symm.trans hp)
  exact h.paired hp (hss ▸ hs) hc

/-- The seed table of the tree that a pass ends with is the one of the source with the new entries at its
end. -/
theorem Ended.seedTable?_tree (h : Ended config file t seed pairs r) :
    r.tree.seedTable? config.seedTable = some ⟨seed.entries ++ r.registry.newEntries, seed.pos⟩ := by
  obtain ⟨seat, hseat, hseed⟩ := Tree.seedTable?_eq_some_iff.1 h.found
  have hsame := seed?_mapSimpleAll_rewrite config config.seedTable t
  have hseat' : IsSeat config.seedTable (mapSimpleAll (rewrite config) t) seat := hseat.congr fun q => by rw [hsame]
  rw [h.tree_eq hseat]
  exact Tree.seedTable?_modify_grow hseat'
    (Tree.seedTable?_eq_some_iff.2 ⟨seat, hseat', (hsame seat).trans hseed⟩) r.registry.newEntries

/-- The new entries are those of what was added. -/
theorem Ended.newEntries_eq (h : Ended config file t seed pairs r) :
    r.registry.newEntries = r.added.map fun c => .pair (.str c.declaration.tag) c.aToB := by
  rw [h.grown, Registry.newEntries_extend_start]

end Pass

/-- The declarations of a compiled source, in their order, are what the entries at the end of the seed table
and the registrations in their places come from, each compiled by itself. No key stands twice. -/
theorem compile_correspondence {s : Source} {config : Config} {text : String}
    (h : (s.compile config).result = .ok text) :
    ∃ (r : Pass.Result) (seed : SeedTable) (pairs : List (Text × Expr)) (cs : List Conversion),
      (Pass.run config s.file s.title s.tree).result = .ok r ∧ r.tree.print = .ok text ∧
      s.tree.seedTable? config.seedTable = some seed ∧
      Registry.literalPairs seed.entries = some pairs ∧
      List.Forall₂ (Pass.Paired config s.file s.tree r.tree)
        (s.tree.declarationPlaces config.declarationName) cs ∧
      r.tree.seedTable? config.seedTable =
        some ⟨seed.entries ++ cs.map fun c => .pair (.str c.declaration.tag) c.aToB, seed.pos⟩ ∧
      (cs.map (·.declaration.tag)).Nodup ∧ (∀ c ∈ cs, c.declaration.tag ∉ pairs.map (·.1)) ∧
      (cs.map (·.declaration.constructor.text)).Nodup ∧
      r.registry.size = (pairs.map (·.1)).toFinset.card + cs.length := by
  obtain ⟨r, hr, hprint⟩ := Source.compile_eq_ok_iff.1 h
  obtain ⟨seed, pairs, hended⟩ := Pass.ended_of_run hr
  have hdistinct := hended.distinct
  rw [hended.grown] at hdistinct
  obtain ⟨htags, hnew⟩ := hdistinct.tags_of_start
  have hsize : r.registry.size = (pairs.map (·.1)).toFinset.card + r.added.length := by
    rw [hended.grown, Registry.size_extend_start]
  exact ⟨r, seed, pairs, r.added, hr, hprint, hended.found, hended.literal, hended.forall₂_paired,
    hended.newEntries_eq ▸ hended.seedTable?_tree, htags, hnew, hdistinct.constructors_of_start, hsize⟩

/-- The entries and the registrations of two declarations, next to a seed table in which a key stands
twice. -/
theorem compile_correspondence_sample : (Sample.source.compile {}).result = .ok Sample.rewritten.text ∧
    ∃ (r : Pass.Result) (seed : SeedTable) (pairs : List (Text × Expr)) (cs : List Conversion),
      (Pass.run {} Sample.source.file Sample.source.title Sample.tree).result = .ok r ∧
      r.tree.print = .ok Sample.rewritten.text ∧
      Sample.tree.seedTable? "A_TO_B" = some seed ∧
      Registry.literalPairs seed.entries = some pairs ∧
      List.Forall₂ (Pass.Paired {} none Sample.tree r.tree) (Sample.tree.declarationPlaces "map") cs ∧
      r.tree.seedTable? "A_TO_B" =
        some ⟨seed.entries ++ cs.map fun c => .pair (.str c.declaration.tag) c.aToB, seed.pos⟩ ∧
      (cs.map (·.declaration.tag)).Nodup ∧ (∀ c ∈ cs, c.declaration.tag ∉ pairs.map (·.1)) ∧
      (cs.map (·.declaration.constructor.text)).Nodup ∧
      r.registry.size = (pairs.map (·.1)).toFinset.card + cs.length :=
  ⟨Sample.compile_source, compile_correspondence Sample.compile_source⟩

end Crosswalk

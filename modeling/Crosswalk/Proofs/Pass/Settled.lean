import Crosswalk.Proofs.Pass.Correspondence

/-!
# A second pass

A tree is settled if no declaration is left in it and the keys of its seed table are string literals. A pass over a
settled tree has nothing to compile and nothing to write, `Pass.Settled.run_eq`. What a pass ends with is settled
unless its registrations are declarations again, so a second pass changes nothing: `compile_settled`.
-/

namespace Crosswalk

/-! ## Changes that change nothing -/

/-- A tree stays as it is if each of its statements is replaced by itself. -/
theorem mapSimpleAll_eq_self {f : Stmt → Stmt} {ss : List Stmt} (h : ∀ s ∈ flattenAll ss, f s = s) :
    mapSimpleAll f ss = ss := by
  induction ss using suites_induct with
  | nil => rw [mapSimpleAll]
  | cons s rest hsuite hrest =>
    obtain ⟨hs, hin, hbehind⟩ := forall_mem_flattenAll_cons.1 h
    rw [mapSimpleAll, hrest hbehind]
    cases s with
    | comment c => rw [Place.mapSimple_comment, hs]
    | simple span content => rw [Place.mapSimple_simple, hs]
    | block span head body handlers orelse final =>
      rw [Stmt.mapSimple]
      congr 2
      · exact hsuite .body (hin .body)
      · exact hsuite .handlers (hin .handlers)
      · exact hsuite .orelse (hin .orelse)
      · exact hsuite .final (hin .final)

theorem Simple.extend_nil (content : Simple) : content.extend [] = content := by
  fun_cases Simple.extend [] content with
  | case1 => rw [List.append_nil]
  | case2 => rw [List.append_nil]
  | case3 => rfl

theorem Stmt.grow_nil (s : Stmt) : s.grow [] = s := by
  cases s with
  | simple span content => rw [grow, content.extend_nil]
  | comment => rfl
  | block => rfl

theorem Place.modify_eq_self {f : Stmt → Stmt} (hf : ∀ s, f s = s) (p : Place) (ss : List Stmt) :
    p.modify f ss = ss := by
  have hid : f = id := funext hf
  subst hid
  induction p generalizing ss with
  | here i => rw [modify, List.modify_id]
  | inside i which rest ih =>
    have hsuite : (fun s : Stmt => s.mapSuite which (rest.modify id)) = id := by
      funext s
      cases s with
      | block => cases which <;> simp [Stmt.mapSuite, ih]
      | comment => rfl
      | simple => rfl
    rw [modify, hsuite, List.modify_id]

/-- Writing leaves a tree as it is if nothing was added. -/
theorem Registry.writeSeed_start (seed : Table Text Expr) (seat : Place) (t : Tree) :
    (start seed).writeSeed seat t = t := by
  have hnone : (start seed).newEntries = [] := by simp [newEntries, start]
  rw [writeSeed, hnone, Place.modify_eq_self Stmt.grow_nil]

namespace Pass

/-! ## Settled trees -/

/-- No declaration is left in the tree, and its seed table holds the pairs. -/
structure Settled (config : Config) (t : Tree) (pairs : List (Text × Expr)) : Prop where
  undeclared : t.declarations config.declarationName = []
  literal : ∃ seed, t.seedTable? config.seedTable = some seed ∧ Registry.literalPairs seed.entries = some pairs

variable {config : Config} {file : Option String} {t : Tree} {seed : SeedTable}
  {pairs : List (Text × Expr)} {r : Result}

/-- A tree without declarations is not rewritten. -/
theorem mapSimpleAll_rewrite_eq_self (h : t.declarations config.declarationName = []) :
    mapSimpleAll (rewrite config) t = t := by
  refine mapSimpleAll_eq_self fun s hs => rewrite_of_not_isDeclaration fun hdecl => ?_
  have hmem : s ∈ t.declarations config.declarationName := List.mem_filter.2 ⟨hs, hdecl⟩
  rw [h] at hmem
  exact List.not_mem_nil hmem

/-- A pass over a settled tree compiles nothing and ends with the same tree. -/
theorem Settled.run_eq (h : Settled config t pairs) (file : Option String) (source : String) :
    run config file source t =
      ⟨[.wrote 0, .finished 0 source (Registry.start (.ofPairs pairs)).size config.seedTable],
        .ok ⟨.start pairs, t⟩⟩ := by
  obtain ⟨seed, hseed, hpairs⟩ := h.literal
  obtain ⟨seat, hseat⟩ := Tree.seedTable?_eq_some_iff.1 hseed
  have hstart : Registry.locate config.seedTable file t = .ok (Registry.start (.ofPairs pairs), seat) :=
    Registry.locate_eq_ok_iff.2 ⟨seed, pairs, Tree.seat?_eq_some_iff.2 hseat, hpairs, rfl⟩
  have hsize : (Registry.start (.ofPairs pairs)).size - (Registry.start (.ofPairs pairs)).seedSize = 0 :=
    Nat.sub_self _
  have hwritten := Registry.writeSeed_start (.ofPairs pairs) seat t
  rw [run, hstart]
  simp only [visitAll_eq, h.undeclared, mapSimpleAll_rewrite_eq_self h.undeclared]
  show (⟨[.wrote (_ - _), _], .ok ⟨_, (Registry.start (.ofPairs pairs)).writeSeed seat t⟩⟩ : Outcome Result) = _
  rw [hsize, hwritten]
  rfl

/-! ## What a pass ends with -/

/-- The registration of a conversion is a declaration only if it is a call of the same name. -/
theorem not_isDeclaration_registration {s : Stmt} {c : Conversion} (hc : convert config file s = .ok c)
    (hname : config.registerBToA ≠ config.declarationName) (span : Span) :
    ¬ (c.registration span).isDeclaration config.declarationName = true := by
  rw [Conversion.registration, register_of_convert hc]
  simpa [Stmt.isDeclaration, Expr.isName] using hname

/-- No declaration is left at any place of the tree that a pass ends with. -/
theorem Ended.not_isDeclaration (h : Ended config file t seed pairs r)
    (hname : config.registerBToA ≠ config.declarationName) {p : Place} {s' : Stmt}
    (hs' : p.stmt? r.tree = some s') : ¬ s'.isDeclaration config.declarationName = true := by
  obtain ⟨seat, hseat, -⟩ := Tree.seedTable?_eq_some_iff.1 h.found
  have hframe := h.frame hseat p
  rw [hs'] at hframe
  generalize p.stmt? t = before at hframe
  cases hframe with
  | some hframe =>
    cases hframe with
    | registration _ hc => exact not_isDeclaration_registration hc hname _
    | seed _ hgrows => cases hgrows <;> simp [Stmt.isDeclaration]
    | same hs _ hshell => rwa [← Stmt.isDeclaration_shell, hshell, Stmt.isDeclaration_shell]

/-- What a pass ends with is settled, and a registry that starts from it holds the same functions from A to B. -/
theorem Ended.settled (h : Ended config file t seed pairs r)
    (hname : config.registerBToA ≠ config.declarationName) :
    ∃ pairs', Settled config r.tree pairs' ∧ Table.ofPairs pairs' = r.registry.aToB := by
  refine ⟨pairs ++ r.added.map fun c => (c.declaration.tag, c.aToB), ⟨?_, ?_⟩, ?_⟩
  · rw [declarations_eq, List.filterMap_eq_nil_iff]
    intro p hp
    obtain ⟨s', hs', hdecl⟩ := mem_declarationPlaces.1 hp
    exact absurd hdecl (h.not_isDeclaration hname hs')
  · have hnew := r.registry.literalPairs_newEntries
    rw [h.grown, Registry.drop_aToB_extend_start, ← h.grown] at hnew
    exact ⟨_, h.seedTable?_tree, Registry.literalPairs_append h.literal hnew⟩
  · have htags := h.distinct.tags
    rw [h.grown] at htags ⊢
    exact Table.ofPairs_append_of_nodup htags

end Pass

/-- The tree that a source is compiled to has no declaration left at any place, and the search for the seed table
finds the dict display that has received the entries. Another pass over that tree compiles nothing, starts from the
same functions from A to B and ends with the same tree. -/
theorem compile_settled {s : Source} {config : Config} {text : String}
    (h : (s.compile config).result = .ok text) (hname : config.registerBToA ≠ config.declarationName) :
    ∃ (r : Pass.Result) (seat : Place) (seed : SeedTable),
      (Pass.run config s.file s.title s.tree).result = .ok r ∧ r.tree.print = .ok text ∧
      (∀ p s', Place.stmt? p r.tree = some s' → ¬ s'.isDeclaration config.declarationName = true) ∧
      IsSeat config.seedTable s.tree seat ∧ seat.seed? config.seedTable s.tree = some seed ∧
      IsSeat config.seedTable r.tree seat ∧
      r.tree.seedTable? config.seedTable = some ⟨seed.entries ++ r.registry.newEntries, seed.pos⟩ ∧
      ∀ file source, ∃ again : Pass.Result, Pass.run config file source r.tree =
          ⟨[.wrote 0, .finished 0 source r.registry.size config.seedTable], .ok again⟩ ∧
        again.added = [] ∧ again.registry.aToB = r.registry.aToB ∧ again.tree = r.tree := by
  obtain ⟨r, hr, hprint⟩ := Source.compile_eq_ok_iff.1 h
  obtain ⟨seed, pairs, hended⟩ := Pass.ended_of_run hr
  obtain ⟨seat, hseat, hseed⟩ := Tree.seedTable?_eq_some_iff.1 hended.found
  obtain ⟨pairs', hsettled, hsame⟩ := hended.settled hname
  have hseat' : IsSeat config.seedTable r.tree seat := by
    rw [hended.tree_eq hseat]
    exact (hseat.congr fun q => by rw [Pass.seed?_mapSimpleAll_rewrite]).modify_grow _
  refine ⟨r, seat, seed, hr, hprint, fun p s' => hended.not_isDeclaration hname, hseat, hseed, hseat',
    hended.seedTable?_tree, fun file source => ?_⟩
  refine ⟨⟨.start pairs', r.tree⟩, ?_, rfl, hsame, rfl⟩
  rw [hsettled.run_eq file source, Registry.size, Registry.size, ← hsame]
  rfl

/-- Another pass over a compiled source with declarations in two suites and two assignments of the seed table's
name. -/
theorem compile_settled_sample : (Sample.source.compile {}).result = .ok Sample.rewritten.text ∧
    ({} : Config).registerBToA ≠ ({} : Config).declarationName ∧
    ∃ (r : Pass.Result) (seat : Place) (seed : SeedTable),
      (Pass.run {} Sample.source.file Sample.source.title Sample.tree).result = .ok r ∧
      r.tree.print = .ok Sample.rewritten.text ∧
      (∀ p s', Place.stmt? p r.tree = some s' → ¬ s'.isDeclaration "map" = true) ∧
      IsSeat "A_TO_B" Sample.tree seat ∧ seat.seed? "A_TO_B" Sample.tree = some seed ∧
      IsSeat "A_TO_B" r.tree seat ∧
      r.tree.seedTable? "A_TO_B" = some ⟨seed.entries ++ r.registry.newEntries, seed.pos⟩ ∧
      ∀ file source, ∃ again : Pass.Result, Pass.run {} file source r.tree =
          ⟨[.wrote 0, .finished 0 source r.registry.size "A_TO_B"], .ok again⟩ ∧
        again.added = [] ∧ again.registry.aToB = r.registry.aToB ∧ again.tree = r.tree :=
  ⟨Sample.compile_source, by decide, compile_settled Sample.compile_source (by decide)⟩

end Crosswalk

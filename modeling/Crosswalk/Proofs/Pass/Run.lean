import Crosswalk.Source
import Crosswalk.Proofs.Declaration
import Crosswalk.Proofs.Registry
import Crosswalk.Proofs.Tree.Seat

/-!
# What a pass goes through

A pass goes through the tree once. What it does can be told in two parts, `Pass.visitAll_eq`: the declarations are
compiled and added one after the other, and each of them gives way to its registration. So a pass with a result has
found the seed table, compiled each declaration of the tree by itself, met no tag and no constructor twice, and then
written what it compiled. `ended_of_run` says so in one structure, `Pass.Ended`, from which the results about passes
are taken.
-/

namespace Crosswalk

namespace Outcome

variable {α β : Type}

@[simp] theorem result_pure (a : α) : (pure a : Outcome α).result = .ok a := rfl

@[simp] theorem result_log (event : Event) : (log event).result = .ok () := rfl

@[simp] theorem result_ofExcept (x : Except Failure α) : (ofExcept x).result = x := rfl

/-- Two steps have a result if the first one has, and the second one after it. -/
theorem result_bind_eq_ok {o : Outcome α} {f : α → Outcome β} {b : β} :
    (o >>= f).result = .ok b ↔ ∃ a, o.result = .ok a ∧ (f a).result = .ok b := by
  show (o.bind f).result = .ok b ↔ _
  rw [bind]
  cases o.result <;> simp

/-- Two steps fail if the first one does, or the second one after it. -/
theorem result_bind_eq_error {o : Outcome α} {f : α → Outcome β} {e : Failure} :
    (o >>= f).result = .error e ↔ o.result = .error e ∨ ∃ a, o.result = .ok a ∧ (f a).result = .error e := by
  show (o.bind f).result = .error e ↔ _
  rw [bind]
  cases o.result <;> simp

instance : LawfulMonad Outcome := LawfulMonad.mk' Outcome
  (fun o => by
    show o.bind (fun a => ofExcept (.ok a)) = o
    rcases o with ⟨events, _ | a⟩ <;> simp [bind, ofExcept])
  (fun a f => by
    show (ofExcept (.ok a)).bind f = f a
    simp [bind, ofExcept])
  (fun o f g => by
    show (o.bind f).bind g = o.bind fun a => (f a).bind g
    rcases o with ⟨events, _ | a⟩
    · rfl
    · cases h : (f a).result <;> simp [bind, h])

/-- Only what comes after a result depends on it. -/
theorem bind_congr_of_result {o : Outcome α} {f g : α → Outcome β} (h : ∀ a, o.result = .ok a → f a = g a) :
    o >>= f = o >>= g := by
  show o.bind f = o.bind g
  rcases o with ⟨events, _ | a⟩
  · rfl
  · simp only [bind, h a rfl]

end Outcome

namespace Pass

/-- A statement is compiled by reading it and compiling what it reads as. -/
theorem convert_eq_ok_iff {config : Config} {file : Option String} {s : Stmt} {c : Conversion} :
    convert config file s = .ok c ↔
      Declaration.read file s = .ok c.declaration ∧ Conversion.compile config c.declaration = .ok c := by
  rw [convert, bind_eq_ok]
  constructor
  · rintro ⟨d, hd, hc⟩
    rw [mapError_eq_ok] at hc
    obtain ⟨fields, -, rfl⟩ := Conversion.compile_eq_ok_iff.1 hc
    exact ⟨hd, hc⟩
  · rintro ⟨hd, hc⟩
    exact ⟨c.declaration, hd, mapError_eq_ok.2 hc⟩

/-- A statement is not compiled if it cannot be read, or if the mapping that it reads as is at fault. -/
theorem convert_eq_error_iff {config : Config} {file : Option String} {s : Stmt} {f : Failure} :
    convert config file s = .error f ↔ Declaration.read file s = .error f ∨
      ∃ d cause, Declaration.read file s = .ok d ∧ Mapping.fields d.mapping = .error cause ∧
        .rejected ⟨cause, Declaration.locationOf file s⟩ = f := by
  simp only [convert, bind_eq_error, mapError_eq_error, Conversion.compile, map_eq_error,
    CompileError.located_ofCause]
  constructor
  · rintro (h | ⟨d, hd, cause, hcause, hf⟩)
    · exact .inl h
    · exact .inr ⟨d, cause, hd, hcause, hf⟩
  · rintro (h | ⟨d, cause, hd, hcause, hf⟩)
    · exact .inl h
    · exact .inr ⟨d, hd, cause, hcause, hf⟩

/-- A statement that is compiled in a file is compiled to the same without one. -/
theorem convert_none {config : Config} {file : Option String} {s : Stmt} {c : Conversion}
    (h : convert config file s = .ok c) : convert config none s = .ok c := by
  rw [convert_eq_ok_iff, Declaration.read_eq_ok_iff] at h ⊢
  exact h

/-- The function that receives what a statement is compiled to is the one of the configuration. -/
theorem register_of_convert {config : Config} {file : Option String} {s : Stmt} {c : Conversion}
    (h : convert config file s = .ok c) : c.register = config.registerBToA := by
  obtain ⟨fields, -, hfields⟩ := Conversion.compile_eq_ok_iff.1 (convert_eq_ok_iff.1 h).2
  rw [← hfields]
  rfl

/-! ## Declarations one after the other -/

/-- A pass that has come further by some conversions. -/
def Progress.extend (w : Progress) (cs : List Conversion) : Progress := ⟨w.registry.extend cs, w.added ++ cs⟩

@[simp] theorem Progress.extend_nil (w : Progress) : w.extend [] = w := by
  rw [extend, Registry.extend_nil, List.append_nil]

theorem Progress.extend_append (w : Progress) (cs more : List Conversion) :
    w.extend (cs ++ more) = (w.extend cs).extend more := by
  rw [extend, Registry.extend_append, ← List.append_assoc]
  rfl

/-- One declaration is compiled by itself, and added if its tag and its constructor are new. -/
theorem enlist_eq_ok_iff {config : Config} {file : Option String} {w w' : Progress} {s : Stmt} {c : Conversion} :
    (enlist config file w s).result = .ok (c, w') ↔ convert config file s = .ok c ∧
      w.registry.add c = .ok (w.registry.extend [c]) ∧ w.extend [c] = w' := by
  simp only [enlist, Outcome.result_bind_eq_ok, Outcome.result_ofExcept, Outcome.result_log, mapError_eq_ok,
    Outcome.result_pure]
  constructor
  · rintro ⟨c, hc, -, -, r, hadd, heq⟩
    cases heq
    obtain ⟨-, -, rfl⟩ := Registry.add_eq_ok_iff.1 hadd
    exact ⟨hc, hadd, rfl⟩
  · rintro ⟨hc, hadd, rfl⟩
    exact ⟨c, hc, (), trivial, _, hadd, rfl⟩

/-- One declaration is refused if it is not compiled, or if what it is compiled to is not added. -/
theorem enlist_eq_error_iff {config : Config} {file : Option String} {w : Progress} {s : Stmt} {f : Failure} :
    (enlist config file w s).result = .error f ↔ convert config file s = .error f ∨
      ∃ c cause, convert config file s = .ok c ∧ w.registry.add c = .error cause ∧
        .rejected ⟨cause, Declaration.locationOf file s⟩ = f := by
  simp only [enlist, Outcome.result_bind_eq_error, Outcome.result_ofExcept, Outcome.result_log,
    mapError_eq_error, CompileError.located_ofCause, Outcome.result_pure]
  constructor
  · rintro (h | ⟨c, hc, h | ⟨-, -, ⟨cause, hcause, hf⟩ | ⟨r, -, h⟩⟩⟩)
    · exact .inl h
    · cases h
    · exact .inr ⟨c, cause, hc, hcause, hf⟩
    · cases h
  · rintro (h | ⟨c, cause, hc, hcause, hf⟩)
    · exact .inl h
    · exact .inr ⟨c, hc, .inr ⟨(), trivial, .inl ⟨cause, hcause, hf⟩⟩⟩

/-- Adds declarations one after the other, without a tree around them. -/
def enlistAll (config : Config) (file : Option String) (w : Progress) : List Stmt → Outcome Progress
  | [] => return w
  | s :: rest => do
    let (_, w) ← enlist config file w s
    enlistAll config file w rest

theorem enlistAll_append (config : Config) (file : Option String) (ss more : List Stmt) :
    ∀ w, enlistAll config file w (ss ++ more) =
      enlistAll config file w ss >>= fun w => enlistAll config file w more := by
  induction ss with
  | nil => simp [enlistAll]
  | cons s rest ih => simp [enlistAll, ih]

/-- Declarations are compiled one by one to conversions that go to the ends of the tables in their order,
and the registry keeps its tags and its constructors distinct. -/
theorem added_of_enlistAll {config : Config} {file : Option String} {ss : List Stmt} :
    ∀ {w w' : Progress}, w.registry.Distinct → (enlistAll config file w ss).result = .ok w' →
      ∃ cs, List.Forall₂ (fun s c => convert config file s = .ok c) ss cs ∧ w.extend cs = w' ∧
        w'.registry.Distinct := by
  -- for all registries at once, since each step hands a longer one to the next
  induction ss with
  | nil =>
    intro w w' hw h
    rw [enlistAll, Outcome.result_pure, Except.ok.injEq] at h
    subst h
    exact ⟨[], .nil, w.extend_nil, hw⟩
  | cons s rest ih =>
    intro w w' hw h
    rw [enlistAll, Outcome.result_bind_eq_ok] at h
    obtain ⟨⟨c, next⟩, hnext, h⟩ := h
    obtain ⟨hc, hadd, rfl⟩ := enlist_eq_ok_iff.1 hnext
    obtain ⟨cs, hcs, rfl, hdistinct⟩ := ih (hw.add hadd) h
    exact ⟨c :: cs, .cons hc hcs, w.extend_append [c] cs, hdistinct⟩

/-- Declarations that are compiled are added one by one, if no tag and no constructor stands twice then. -/
theorem enlistAll_of_forall₂ {config : Config} {file : Option String} {ss : List Stmt} {cs : List Conversion}
    (h : List.Forall₂ (fun s c => convert config file s = .ok c) ss cs) :
    ∀ {w : Progress}, (w.extend cs).registry.Distinct →
      (enlistAll config file w ss).result = .ok (w.extend cs) := by
  induction h with
  | nil =>
    intro w _
    rw [enlistAll, Outcome.result_pure, Progress.extend_nil]
  | @cons s c ss cs hc _ ih =>
    intro w hw
    have hsplit : w.extend (c :: cs) = (w.extend [c]).extend cs := w.extend_append [c] cs
    rw [enlistAll, Outcome.result_bind_eq_ok]
    refine ⟨(c, w.extend [c]), enlist_eq_ok_iff.2 ⟨hc, Registry.Distinct.add_eq_ok hw, rfl⟩, ?_⟩
    rw [hsplit] at hw ⊢
    exact ih hw

/-- Declarations are refused for the first one that is, after those before it were added. -/
theorem enlistAll_eq_error_iff {config : Config} {file : Option String} {ss : List Stmt} {f : Failure} :
    ∀ {w : Progress}, (enlistAll config file w ss).result = .error f ↔
      ∃ before s after w', ss = before ++ s :: after ∧ (enlistAll config file w before).result = .ok w' ∧
        (enlist config file w' s).result = .error f := by
  induction ss with
  | nil =>
    intro w
    simp [enlistAll]
  | cons s rest ih =>
    intro w
    rw [enlistAll, Outcome.result_bind_eq_error]
    constructor
    · rintro (h | ⟨next, hnext, h⟩)
      · exact ⟨[], s, rest, w, rfl, rfl, h⟩
      · obtain ⟨before, s', after, w', rfl, hbefore, hs'⟩ := ih.1 h
        refine ⟨s :: before, s', after, w', rfl, ?_, hs'⟩
        rw [enlistAll, Outcome.result_bind_eq_ok]
        exact ⟨next, hnext, hbefore⟩
    · rintro ⟨before, s', after, w', heq, hbefore, hs'⟩
      cases before with
      | nil =>
        cases heq
        cases hbefore
        exact .inl hs'
      | cons b before =>
        cases heq
        rw [enlistAll, Outcome.result_bind_eq_ok] at hbefore
        obtain ⟨next, hnext, hbefore⟩ := hbefore
        exact .inr ⟨next, hnext, ih.2 ⟨before, s', after, w', rfl, hbefore, hs'⟩⟩

/-! ## The registration in the place of a declaration -/

/-- The registration that takes the place of a declaration. Other statements stay. -/
def rewrite (config : Config) (s : Stmt) : Stmt :=
  if s.isDeclaration config.declarationName then
    match convert config none s with
    | .ok c => c.registration s.span
    | .error _ => s
  else s

variable {config : Config}

theorem rewrite_of_not_isDeclaration {s : Stmt} (h : ¬ s.isDeclaration config.declarationName = true) :
    rewrite config s = s := by
  rw [rewrite, if_neg h]

theorem rewrite_of_convert {file : Option String} {s : Stmt} {c : Conversion}
    (h : s.isDeclaration config.declarationName = true) (hc : convert config file s = .ok c) :
    rewrite config s = c.registration s.span := by
  rw [rewrite, if_pos h, convert_none hc]

/-- A statement is left as it is, or it is an expression and becomes another one at the same place. -/
theorem rewrite_cases (config : Config) (s : Stmt) : rewrite config s = s ∨
    ∃ value value', s = .simple s.span (.expr value) ∧ rewrite config s = .simple s.span (.expr value') := by
  rw [rewrite]
  by_cases h : s.isDeclaration config.declarationName = true
  · rw [if_pos h]
    obtain ⟨arguments, keywords, heq⟩ := Stmt.exists_simple_of_isDeclaration h
    cases convert config none s with
    | ok c => exact .inr ⟨_, _, heq, rfl⟩
    | error e => exact .inl rfl
  · rw [if_neg h]
    exact .inl rfl

/-- What takes the place of a statement has the suites of the statement. -/
theorem suite_rewrite (config : Config) (s : Stmt) (which : Suite) :
    (rewrite config s).suite which = s.suite which := by
  rcases rewrite_cases config s with h | ⟨value, value', heq, h⟩
  · rw [h]
  · rw [h, heq, Stmt.suite_simple, Stmt.suite_simple]

/-- Neither a declaration nor a registration assigns anything. -/
theorem seed?_mapSimple_rewrite (config : Config) (name : String) (s : Stmt) :
    (s.mapSimple (rewrite config)).seed? name = s.seed? name := by
  have hrewrite : (rewrite config s).seed? name = s.seed? name := by
    rcases rewrite_cases config s with h | ⟨value, value', heq, h⟩
    · rw [h]
    · rw [h, heq]
      rfl
  cases s with
  | block => rw [Stmt.mapSimple]; rfl
  | comment => rw [Place.mapSimple_comment, hrewrite]
  | simple => rw [Place.mapSimple_simple, hrewrite]

/-- Each place assigns after the rewriting what it assigned before. -/
theorem seed?_mapSimpleAll_rewrite (config : Config) (name : String) (t : Tree) (p : Place) :
    p.seed? name (mapSimpleAll (rewrite config) t) = p.seed? name t := by
  rw [Place.seed?, Place.stmt?_mapSimpleAll (suite_rewrite config), Place.seed?, Option.bind_map]
  congr 1
  funext s
  exact seed?_mapSimple_rewrite config name s

/-! ## The way through a tree -/

/-- A simple statement is left as it is, or it is a declaration and is added. -/
theorem visit_simple (file : Option String) (w : Progress) (span : Span) (content : Simple) :
    visit config file w (.simple span content) =
      enlistAll config file w ([Stmt.simple span content].filter (·.isDeclaration config.declarationName)) >>=
        fun w => return (rewrite config (.simple span content), w) := by
  have hvisit : visit config file w (.simple span content) =
      if (Stmt.simple span content).isDeclaration config.declarationName then
        enlist config file w (.simple span content) >>= fun added => return (added.1.registration span, added.2)
      else return (.simple span content, w) := rfl
  rw [hvisit, List.filter_singleton]
  by_cases hs : (Stmt.simple span content).isDeclaration config.declarationName = true
  · rw [if_pos hs, hs, cond_true]
    simp only [enlistAll, bind_assoc, pure_bind]
    refine Outcome.bind_congr_of_result fun ⟨c, w'⟩ hc => ?_
    rw [rewrite_of_convert hs (enlist_eq_ok_iff.1 hc).1]
    rfl
  · rw [if_neg hs, rewrite_of_not_isDeclaration hs, Bool.eq_false_iff.2 hs, cond_false, enlistAll, pure_bind]

/-- To go through a tree is to add its declarations one after the other, and to put the registrations in their
places. -/
theorem visitAll_eq (config : Config) (file : Option String) (ss : List Stmt) :
    ∀ w, visitAll config file w ss = enlistAll config file w (Tree.declarations config.declarationName ss) >>=
      fun w => return (mapSimpleAll (rewrite config) ss, w) := by
  induction ss using suites_induct with
  | nil =>
    intro w
    rw [visitAll, mapSimpleAll]
    rfl
  | cons s rest hsuite hrest =>
    intro w
    rw [visitAll, mapSimpleAll, Tree.declarations_cons, enlistAll_append, enlistAll_append]
    cases s with
    | comment c =>
      simp [visit, hrest, rewrite, enlistAll, Tree.declarations, flattenAll, Stmt.isDeclaration, Suite.all]
    | simple span content => simp [visit_simple, hrest, enlistAll, Tree.declarations, flattenAll, Suite.all]
    | block span head body handlers orelse final =>
      have hbody : ∀ w, visitAll config file w body = _ := hsuite .body
      have hhandlers : ∀ w, visitAll config file w handlers = _ := hsuite .handlers
      have horelse : ∀ w, visitAll config file w orelse = _ := hsuite .orelse
      have hfinal : ∀ w, visitAll config file w final = _ := hsuite .final
      simp [visit, hbody, hhandlers, horelse, hfinal, hrest, enlistAll_append, enlistAll, Stmt.mapSimple, Stmt.suite,
        Stmt.isDeclaration, Suite.all]

/-! ## The two ends of a pass -/

variable {file : Option String} {source : String} {t : Tree}

/-- A pass comes to its end if the seed table is found and the declarations are added. The seed table is then written
at its place. -/
theorem run_eq_ok_iff {r : Result} : (run config file source t).result = .ok r ↔
    ∃ start seat, Registry.locate config.seedTable file t = .ok (start, seat) ∧
      (enlistAll config file ⟨start, []⟩ (t.declarations config.declarationName)).result = .ok r.toProgress ∧
      r.registry.writeSeed seat (mapSimpleAll (rewrite config) t) = r.tree := by
  simp only [run, visitAll_eq, Outcome.result_bind_eq_ok, Outcome.result_ofExcept, Outcome.result_pure,
    Outcome.result_log]
  constructor
  · rintro ⟨⟨start, seat⟩, hstart, _, ⟨w, hw, hrewritten⟩, -, -, -, -, hr⟩
    cases hrewritten
    cases hr
    exact ⟨start, seat, hstart, hw, rfl⟩
  · rintro ⟨start, seat, hstart, hw, htree⟩
    refine ⟨(start, seat), hstart, _, ⟨_, hw, rfl⟩, (), trivial, (), trivial, ?_⟩
    show Except.ok (Result.mk r.toProgress (r.registry.writeSeed seat (mapSimpleAll (rewrite config) t))) = .ok r
    rw [htree]

theorem exists_run_iff (source : String) {w : Progress} :
    (∃ r, (run config file source t).result = .ok r ∧ r.toProgress = w) ↔
      ∃ start seat, Registry.locate config.seedTable file t = .ok (start, seat) ∧
        (enlistAll config file ⟨start, []⟩ (t.declarations config.declarationName)).result = .ok w := by
  simp only [run_eq_ok_iff]
  constructor
  · rintro ⟨r, ⟨start, seat, hstart, hw, -⟩, rfl⟩
    exact ⟨start, seat, hstart, hw⟩
  · rintro ⟨start, seat, hstart, hw⟩
    exact ⟨⟨w, w.registry.writeSeed seat (mapSimpleAll (rewrite config) t)⟩, ⟨start, seat, hstart, hw, rfl⟩, rfl⟩

theorem run_eq_error_iff {f : Failure} : (run config file source t).result = .error f ↔
    Registry.locate config.seedTable file t = .error f ∨
      ∃ start seat, Registry.locate config.seedTable file t = .ok (start, seat) ∧
        (enlistAll config file ⟨start, []⟩ (t.declarations config.declarationName)).result = .error f := by
  simp only [run, visitAll_eq, Outcome.result_bind_eq_error, Outcome.result_ofExcept, Outcome.result_pure,
    Outcome.result_log, reduceCtorEq, and_false, exists_false, or_false, Prod.exists]

/-! ## A pass with a result -/

/-- Where a pass starts from the pairs of a seed table. -/
def Progress.start (pairs : List (Text × Expr)) : Progress := ⟨Registry.start (.ofPairs pairs), []⟩

/-- What a pass with a result has gone through: it found the seed table and read the pairs of it, and the tables of
the registry it ends with have grown by the conversions of all declarations, each compiled by itself. -/
structure Ended (config : Config) (file : Option String) (t : Tree) (seed : SeedTable)
    (pairs : List (Text × Expr)) (r : Result) : Prop where
  found : t.seedTable? config.seedTable = some seed
  literal : Registry.literalPairs seed.entries = some pairs
  compiled : List.Forall₂ (fun s c => convert config file s = .ok c)
    (t.declarations config.declarationName) r.added
  grown : r.registry = (Registry.start (.ofPairs pairs)).extend r.added
  distinct : r.registry.Distinct
  written : ∃ seat, IsSeat config.seedTable t seat ∧
    r.tree = r.registry.writeSeed seat (mapSimpleAll (rewrite config) t)

theorem ended_of_run {file : Option String} {source : String} {t : Tree} {r : Result}
    (h : (run config file source t).result = .ok r) : ∃ seed pairs, Ended config file t seed pairs r := by
  obtain ⟨start, seat, hstart, hw, htree⟩ := run_eq_ok_iff.1 h
  obtain ⟨seed, pairs, hseat, hpairs, rfl⟩ := Registry.locate_eq_ok_iff.1 hstart
  obtain ⟨cs, hcs, heq, hdistinct⟩ := added_of_enlistAll (w := .start pairs) (Registry.distinct_ofPairs pairs) hw
  have hadded : cs = r.added := congrArg Progress.added heq
  have hgrown : (Registry.start (.ofPairs pairs)).extend cs = r.registry := congrArg Progress.registry heq
  rw [hadded] at hcs hgrown
  have hfound : t.seedTable? config.seedTable = some seed := by rw [Tree.seedTable?, hseat, Option.map_some]
  exact ⟨seed, pairs, hfound, hpairs, hcs, hgrown.symm, hdistinct, seat, (Tree.seat?_eq_some_iff.1 hseat).1,
    htree.symm⟩

end Pass

namespace Source

/-- A source is compiled if its pass comes to an end, and the tree that the pass ends with has a text. -/
theorem compile_eq_ok_iff {s : Source} {config : Config} {text : String} :
    (s.compile config).result = .ok text ↔ ∃ r,
      (Pass.run config s.file s.title s.tree).result = .ok r ∧ r.tree.print = .ok text := by
  simp only [compile, Outcome.result_bind_eq_ok, Outcome.result_ofExcept, mapError_eq_ok]

/-- A source is not compiled if its pass fails, or if the tree that the pass ends with has no text. -/
theorem compile_eq_error_iff {s : Source} {config : Config} {f : Failure} :
    (s.compile config).result = .error f ↔ (Pass.run config s.file s.title s.tree).result = .error f ∨
      ∃ r fault, (Pass.run config s.file s.title s.tree).result = .ok r ∧ r.tree.print = .error fault ∧
        .unprintable fault = f := by
  simp only [compile, Outcome.result_bind_eq_error, Outcome.result_ofExcept, mapError_eq_error,
    exists_and_left]

end Source

end Crosswalk

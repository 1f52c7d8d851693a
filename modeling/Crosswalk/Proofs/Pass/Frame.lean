import Crosswalk.Proofs.Pass.Run

/-!
# What a pass leaves as it is

A pass keeps the shape of a tree. `Pass.Frame` says what stands at a place before and after: a registration
in the place of a declaration, the seed table with entries at its end, and otherwise the same statement. The
comments of a tree stay as they are, in their order.
-/

namespace Crosswalk

/-- The comment that a statement is. -/
def Stmt.comment? : Stmt → Option Comment
  | .comment c => some c
  | _ => none

/-- The comments of a tree, in the order of the source. -/
def Tree.comments (t : Tree) : List Comment := (flattenAll t).filterMap Stmt.comment?

/-- An assignment of a dict display, and the same with entries at the end of the dict display. -/
inductive Simple.Grows (more : List Entry) : Simple → Simple → Prop
  | assign (targets : List Expr) (entries : List Entry) (pos : Pos) :
      Grows more (.assign targets (.dict entries) pos) (.assign targets (.dict (entries ++ more)) pos)
  | annotated (target : Expr) (isBare : Bool) (note : Expr) (entries : List Entry) (pos : Pos) :
      Grows more (.annotated target isBare note (some (.dict entries)) pos)
        (.annotated target isBare note (some (.dict (entries ++ more))) pos)

/-- What assigns a dict display grows by the entries that are added. -/
theorem Simple.grows_extend {name : String} {content : Simple} (h : (content.seed? name).isSome)
    (more : List Entry) : content.Grows more (content.extend more) := by
  unfold Simple.seed? at h
  split at h
  · exact .assign _ _ _
  · exact .annotated _ _ _ _ _
  · exact absurd h (by simp)

namespace Stmt

/-- What assigns a dict display is a statement without suites. -/
theorem exists_simple_of_seed? {name : String} {s : Stmt} (h : (s.seed? name).isSome) :
    ∃ content, s = .simple s.span content ∧ (content.seed? name).isSome := by
  cases s with
  | comment => exact absurd h (by simp [seed?])
  | simple span content => exact ⟨content, rfl, h⟩
  | block => exact absurd h (by simp [seed?])

/-- A declaration assigns nothing. -/
theorem not_isDeclaration_of_seed? {name other : String} {s : Stmt} (h : (s.seed? name).isSome) :
    ¬ s.isDeclaration other = true := by
  intro hs
  obtain ⟨arguments, keywords, heq⟩ := Stmt.exists_simple_of_isDeclaration hs
  rw [heq] at h
  exact absurd h (by simp [seed?, Simple.seed?])

theorem eq_of_shell_eq_simple {s : Stmt} {span : Span} {content : Simple}
    (h : s.shell = .simple span content) : s = .simple span content := by
  cases s with
  | comment => exact h
  | simple => exact h
  | block => exact absurd h (by simp [shell])

@[simp] theorem isDeclaration_shell (name : String) (s : Stmt) :
    s.shell.isDeclaration name = s.isDeclaration name := by
  cases s <;> rfl

end Stmt

namespace Pass

/-- What stands at a place before and after a pass that adds entries at the seat. -/
inductive Frame (config : Config) (file : Option String) (seat : Place) (more : List Entry) (p : Place) :
    Stmt → Stmt → Prop
  /-- A declaration has its registration in its place. -/
  | registration {s : Stmt} {c : Conversion} (hs : s.isDeclaration config.declarationName = true)
      (hc : convert config file s = .ok c) : Frame config file seat more p s (c.registration s.span)
  /-- The seed table has the entries at its end. -/
  | seed {span : Span} {content content' : Simple} (hp : p = seat) (h : content.Grows more content') :
      Frame config file seat more p (.simple span content) (.simple span content')
  /-- All else is what it was, and what stands in its suites has places of its own. -/
  | same {s s' : Stmt} (hs : ¬ s.isDeclaration config.declarationName = true) (hp : p ≠ seat)
      (h : s'.shell = s.shell) : Frame config file seat more p s s'

variable {config : Config} {file : Option String} {t : Tree} {seed : SeedTable}
  {pairs : List (Text × Expr)} {r : Result} {seat : Place}

/-- The declarations of a pass with a result have all been compiled. -/
theorem Ended.exists_convert (h : Ended config file t seed pairs r) {p : Place} {s : Stmt}
    (hp : p.stmt? t = some s) (hs : s.isDeclaration config.declarationName = true) :
    ∃ c, convert config file s = .ok c := by
  have hplace : p ∈ places t := (mem_places t p).2 (by rw [hp]; rfl)
  have hmem : s ∈ t.declarations config.declarationName := by
    rw [Tree.declarations, flattenAll_eq, List.mem_filter]
    exact ⟨List.mem_filterMap.2 ⟨p, hplace, hp⟩, hs⟩
  obtain ⟨i, hi, rfl⟩ := List.getElem_of_mem hmem
  have hi' : i < r.added.length := h.compiled.length_eq ▸ hi
  exact ⟨r.added[i], h.compiled.get hi hi'⟩

/-- The tree that a pass ends with: the declarations give way to their registrations, and the seed table grows. -/
theorem Ended.tree_eq (h : Ended config file t seed pairs r) (hseat : IsSeat config.seedTable t seat) :
    r.tree = seat.modify (Stmt.grow r.registry.newEntries) (mapSimpleAll (rewrite config) t) := by
  obtain ⟨seat', hseat', htree⟩ := h.written
  rw [htree, hseat'.unique hseat]
  rfl

/-- At the seat the dict display has grown. -/
theorem Ended.frame_seat (h : Ended config file t seed pairs r) (hseat : IsSeat config.seedTable t seat) :
    Option.Rel (Frame config file seat r.registry.newEntries seat) (seat.stmt? t) (seat.stmt? r.tree) := by
  obtain ⟨s, hs⟩ := Option.isSome_iff_exists.1 (Place.isSome_stmt?_of_seed? hseat.assigned)
  have hassigned : (s.seed? config.seedTable).isSome := by
    simpa [Place.seed?, hs] using hseat.assigned
  obtain ⟨content, heq, hcontent⟩ := Stmt.exists_simple_of_seed? hassigned
  -- an assignment is no declaration, so the rewriting has left it to be extended
  have hkept : s.mapSimple (rewrite config) = s := by
    rw [heq, Place.mapSimple_simple, ← heq]
    exact rewrite_of_not_isDeclaration (Stmt.not_isDeclaration_of_seed? hassigned)
  have hafter : seat.stmt? r.tree = some (s.grow r.registry.newEntries) := by
    rw [h.tree_eq hseat, Place.stmt?_modify_self, Place.stmt?_mapSimpleAll (suite_rewrite config), hs,
      Option.map_some, hkept, Option.map_some]
  rw [hs, hafter, heq]
  exact .some (.seed rfl (Simple.grows_extend hcontent _))

/-- At every other place a declaration has given way to its registration, and all else is the same. -/
theorem Ended.frame_of_ne (h : Ended config file t seed pairs r) (hseat : IsSeat config.seedTable t seat)
    {p : Place} (hp : p ≠ seat) :
    Option.Rel (Frame config file seat r.registry.newEntries p) (p.stmt? t) (p.stmt? r.tree) := by
  -- the seed table is written after the rewriting, which leaves the shells elsewhere alone
  have hshell : (p.stmt? r.tree).map Stmt.shell =
      ((p.stmt? t).map (Stmt.mapSimple (rewrite config))).map Stmt.shell := by
    rw [h.tree_eq hseat, Place.shell_stmt?_modify (Stmt.suite_grow _) hp,
      Place.stmt?_mapSimpleAll (suite_rewrite config)]
  cases hs : p.stmt? t with
  | none =>
    rw [hs, Option.map_none, Option.map_none, Option.map_eq_none_iff] at hshell
    rw [hshell]
    exact .none
  | some s =>
    rw [hs, Option.map_some, Option.map_some] at hshell
    obtain ⟨s', hs', heq⟩ := Option.map_eq_some_iff.1 hshell
    rw [hs']
    by_cases hdecl : s.isDeclaration config.declarationName = true
    · obtain ⟨c, hc⟩ := h.exists_convert hs hdecl
      obtain ⟨arguments, keywords, hsimple⟩ := Stmt.exists_simple_of_isDeclaration hdecl
      have hregistration : s.mapSimple (rewrite config) = c.registration s.span := by
        rw [hsimple, Place.mapSimple_simple, ← hsimple, rewrite_of_convert hdecl hc]
      rw [hregistration] at heq
      rw [Stmt.eq_of_shell_eq_simple heq]
      exact .some (.registration hdecl hc)
    · have hkept : (s.mapSimple (rewrite config)).shell = s.shell := by
        cases s with
        | block => rw [Stmt.mapSimple]; rfl
        | comment => rw [Place.mapSimple_comment, rewrite_of_not_isDeclaration hdecl]
        | simple => rw [Place.mapSimple_simple, rewrite_of_not_isDeclaration hdecl]
      exact .some (.same hdecl hp (heq.trans hkept))

/-- What stands at each place after a pass is what the frame allows. -/
theorem Ended.frame (h : Ended config file t seed pairs r) (hseat : IsSeat config.seedTable t seat)
    (p : Place) :
    Option.Rel (Frame config file seat r.registry.newEntries p) (p.stmt? t) (p.stmt? r.tree) := by
  by_cases hp : p = seat
  · rw [hp]
    exact h.frame_seat hseat
  · exact h.frame_of_ne hseat hp

end Pass

namespace Sample

/-- A declaration of the tag and the constructor, with no fields. -/
def declaration (tag : String) (constructor : Expr) : Simple :=
  .expr (.call (.name "map") [.string tag, constructor] [])

/-- A source with declarations in two suites and a seed table whose key stands twice. -/
def tree : Tree :=
  [.simple ⟨1, 0, 1, 29⟩
      (.assign [.name "A_TO_B"] (.dict [.pair (.string "Old") (.name "f"), .pair (.string "Old") (.name "g")])
        ⟨1, 9⟩),
    .block ⟨2, 0, 6, 31⟩ (.ifThen (.name "ready"))
      [.comment ⟨"# first", true, ⟨2, 11, 2, 18⟩⟩,
        .simple ⟨3, 4, 3, 25⟩ (declaration "While" (.name "B_While")),
        .simple ⟨4, 4, 4, 15⟩ (.assign [.name "A_TO_B"] (.dict []) ⟨4, 13⟩)]
      []
      [.simple ⟨6, 4, 6, 29⟩ (declaration "Name" (.attribute (.name "nodes") "B_Name"))]
      [],
    .simple ⟨7, 0, 7, 19⟩ (.assign [.name "x"] (.call (.name "map") [.string "If", .name "B_If"] []) ⟨7, 4⟩)]

def source : Source := ⟨"<string>", none, "", tree, false⟩

/-- The conversions of the two declarations. -/
def conversions : List Conversion :=
  [.ofFields {} ⟨.ofString "While", ⟨"B_While", []⟩, none, ⟨3, 4⟩⟩ [],
    .ofFields {} ⟨.ofString "Name", ⟨"nodes", ["B_Name"]⟩, none, ⟨6, 4⟩⟩ []]

/-- The tree with the registrations and the longer seed table. -/
def rewritten : Tree :=
  [.simple ⟨1, 0, 1, 29⟩
      (.assign [.name "A_TO_B"]
        (.dict ([.pair (.string "Old") (.name "f"), .pair (.string "Old") (.name "g")] ++
          conversions.map fun c => .pair (.str c.declaration.tag) c.aToB)) ⟨1, 9⟩),
    .block ⟨2, 0, 6, 31⟩ (.ifThen (.name "ready"))
      [.comment ⟨"# first", true, ⟨2, 11, 2, 18⟩⟩,
        conversions[0].registration ⟨3, 4, 3, 25⟩,
        .simple ⟨4, 4, 4, 15⟩ (.assign [.name "A_TO_B"] (.dict []) ⟨4, 13⟩)]
      []
      [conversions[1].registration ⟨6, 4, 6, 29⟩]
      [],
    .simple ⟨7, 0, 7, 19⟩ (.assign [.name "x"] (.call (.name "map") [.string "If", .name "B_If"] []) ⟨7, 4⟩)]

theorem compile_source : (source.compile {}).result = .ok rewritten.text := rfl

end Sample

end Crosswalk

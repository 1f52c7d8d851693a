import Crosswalk.Proofs.Mapping.Grammar
import Crosswalk.Proofs.Pass.Correspondence
import Crosswalk.Proofs.Tree.Read
import Mathlib.Data.List.Pairwise

/-!
# Listing and compiling

The declarations of a source can be listed by the place where they begin, without compiling them. They are then
collected level by level and sorted, while a pass takes them in the order of the tree. Both meet the same
declarations. They agree on the order too if the tree has its declarations in the order of their places,
`Tree.InPlace`. So it has as it is parsed, and a source without comments has no other tree; but to place a comment
sorts a suite by the lines on which its statements end, and only if these rise, the order stays: `Tree.inPlace_read`.
-/

namespace Crosswalk

/-- A statement begins no later than another one. -/
def Stmt.startsBy (a b : Stmt) : Bool :=
  a.span.line < b.span.line || (a.span.line = b.span.line && a.span.column ≤ b.span.column)

theorem Stmt.startsBy_iff {a b : Stmt} : a.startsBy b = true ↔ a.span.start.NotAfter b.span.start := by
  simp only [startsBy, Pos.NotAfter, Pos.Before, Span.start, Bool.or_eq_true, Bool.and_eq_true, decide_eq_true_eq]
  omega

namespace Tree

/-- The declarations of a tree by the place where they begin. -/
def byPlace (name : String) (t : Tree) : List Stmt :=
  (t.walk.filter (·.isDeclaration name)).mergeSort Stmt.startsBy

variable {name : String} {t : Tree}

theorem perm_byPlace (name : String) (t : Tree) : (t.byPlace name).Perm (t.declarations name) :=
  (List.mergeSort_perm _ _).trans (t.perm_walk.filter _)

theorem pairwise_byPlace (name : String) (t : Tree) :
    (t.byPlace name).Pairwise fun a b => a.span.start.NotAfter b.span.start := by
  have hsorted : (t.byPlace name).Pairwise fun a b => a.startsBy b = true := by
    refine List.pairwise_mergeSort (fun a b c hab hbc => ?_) (fun a b => ?_) _
    · rw [Stmt.startsBy_iff] at *
      exact hab.trans hbc
    · rw [Bool.or_eq_true, Stmt.startsBy_iff, Stmt.startsBy_iff]
      exact Pos.notAfter_total _ _
  exact hsorted.imp Stmt.startsBy_iff.1

/-- Of two declarations that stand in order one begins before the other. -/
theorem InPlace.before_or_before (h : t.InPlace name) {a b : Stmt} (ha : a ∈ t.declarations name)
    (hb : b ∈ t.declarations name) (hne : a ≠ b) :
    a.span.start.Before b.span.start ∨ b.span.start.Before a.span.start := by
  let apart (a b : Stmt) : Prop := a.span.start.Before b.span.start ∨ b.span.start.Before a.span.start
  have hsymm : Std.Symm apart := ⟨fun a b hab => hab.symm⟩
  have hapart : (t.declarations name).Pairwise apart := List.Pairwise.imp .inl h
  exact hapart.forall ha hb hne

/-- Declarations that stand in the order of their places are listed in that order. -/
theorem InPlace.byPlace_eq (h : t.InPlace name) : t.byPlace name = t.declarations name := by
  refine (t.perm_byPlace name).eq_of_pairwise (fun a b ha hb hab hba => ?_) (t.pairwise_byPlace name)
    (List.Pairwise.imp (fun hab => ?_) h)
  · by_contra hne
    rcases h.before_or_before ((t.perm_byPlace name).mem_iff.1 ha) hb hne with hlt | hlt
    · exact hba hlt
    · exact hab hlt
  · exact Pos.Before.notAfter hab

end Tree

namespace Declaration

/-- A declaration that was read is at the place of its statement. -/
theorem pos_of_read {file : Option String} {s : Stmt} {d : Declaration} (h : read file s = .ok d) :
    d.pos = s.span.start := by
  obtain ⟨function, arguments, keywords, -, hd⟩ := read_eq_ok_iff.1 h
  obtain ⟨isMarked, rest, -, -, -, hpos⟩ := ofArguments_eq_ok_iff.1 hd
  exact hpos

end Declaration

namespace Pass

variable {config : Config} {file : Option String} {source : String} {t : Tree} {seed : SeedTable}
  {pairs : List (Text × Expr)} {r : Result}

theorem list_eq (config : Config) (file : Option String) (t : Tree) :
    list config file t = (t.byPlace config.declarationName).mapM (Declaration.read file) := rfl

/-! ## Sources that are compiled -/

/-- What a pass with a result has compiled is what the declarations are read as. -/
theorem forall₂_read_of_convert {ss : List Stmt} {cs : List Conversion}
    (h : List.Forall₂ (fun s c => convert config file s = .ok c) ss cs) :
    List.Forall₂ (fun s d => Declaration.read file s = .ok d) ss (cs.map (·.declaration)) := by
  rw [List.forall₂_map_right_iff]
  exact h.imp fun s c hc => (convert_eq_ok_iff.1 hc).1

theorem pos_of_forall₂_read {ss : List Stmt} {ds : List Declaration}
    (h : List.Forall₂ (fun s d => Declaration.read file s = .ok d) ss ds) :
    ds.map (·.pos) = ss.map (·.span.start) := by
  induction h with
  | nil => rfl
  | cons hd _ ih => rw [List.map_cons, List.map_cons, Declaration.pos_of_read hd, ih]

/-- The declarations of a compiled source are listed, by their places. -/
theorem Ended.exists_list (h : Ended config file t seed pairs r) : ∃ ds, list config file t = .ok ds ∧
    ds.Perm (r.added.map (·.declaration)) ∧ ds.Pairwise fun d d' => d.pos.NotAfter d'.pos := by
  have hread := forall₂_read_of_convert h.compiled
  obtain ⟨ds, hds, hperm⟩ := List.perm_comp_forall₂ (t.perm_byPlace config.declarationName) hread
  refine ⟨ds, mapM_eq_ok_iff.2 hds, hperm, ?_⟩
  have hsorted := t.pairwise_byPlace config.declarationName
  rw [← List.pairwise_map (f := fun s : Stmt => s.span.start) (R := Pos.NotAfter),
    ← pos_of_forall₂_read hds, List.pairwise_map] at hsorted
  exact hsorted

/-- If the declarations stand in the order of their places, they are listed in the order of the pass. -/
theorem Ended.list_eq_ok (h : Ended config file t seed pairs r) (ht : t.InPlace config.declarationName) :
    list config file t = .ok (r.added.map (·.declaration)) := by
  rw [list_eq, ht.byPlace_eq, mapM_eq_ok_iff]
  exact forall₂_read_of_convert h.compiled

/-- The list is in the order of the pass only if the declarations stand in the order of their places. -/
theorem Ended.inPlace_iff (h : Ended config file t seed pairs r) {ds : List Declaration}
    (hds : list config file t = .ok ds) (hsorted : ds.Pairwise fun d d' => d.pos.NotAfter d'.pos) :
    t.InPlace config.declarationName ↔ ds = r.added.map (·.declaration) ∧
      ((t.declarations config.declarationName).map (·.span.start)).Nodup := by
  constructor
  · intro ht
    have hlist := h.list_eq_ok ht
    rw [hds] at hlist
    exact ⟨Except.ok.inj hlist, (Tree.inPlace_iff.1 ht).2⟩
  · rintro ⟨rfl, hnodup⟩
    have hpos := pos_of_forall₂_read (forall₂_read_of_convert h.compiled)
    rw [Tree.inPlace_iff, ← hpos, List.pairwise_map]
    exact ⟨hsorted, hpos ▸ hnodup⟩

/-! ## Sources that are refused -/

/-- What cannot be listed cannot be compiled. -/
theorem exists_run_eq_error (source : String) {f : Failure} (h : list config file t = .error f) :
    ∃ f', (run config file source t).result = .error f' := by
  cases hrun : (run config file source t).result with
  | error f' => exact ⟨f', rfl⟩
  | ok r =>
    obtain ⟨seed, pairs, hended⟩ := ended_of_run hrun
    obtain ⟨ds, hds, -⟩ := hended.exists_list
    rw [h] at hds
    cases hds

/-- A pass that refuses a declaration for its form has read those before it. -/
theorem mapM_read_of_run {reason : Text} {l : Location}
    (h : (run config file source t).result = .error (.rejected ⟨.declaration reason, l⟩)) :
    (t.declarations config.declarationName).mapM (Declaration.read file) =
      .error (.rejected ⟨.declaration reason, l⟩) := by
  rw [run_eq_error_iff, Registry.locate_eq_error_iff] at h
  rcases h with (⟨-, hf⟩ | ⟨seed, -, -, hf⟩) | ⟨start, seat, hstart, hf⟩
  · cases hf
  · unfold Registry.seedFailure at hf
    split at hf <;> cases hf
  · obtain ⟨before, s, after, w, hsplit, hbefore, hs⟩ := enlistAll_eq_error_iff.1 hf
    obtain ⟨seed, pairs, -, -, rfl⟩ := Registry.locate_eq_ok_iff.1 hstart
    obtain ⟨cs, hcs, -, -⟩ := added_of_enlistAll (w := .start pairs) (Registry.distinct_ofPairs pairs) hbefore
    rw [hsplit, mapM_eq_error_iff]
    refine ⟨before, s, after, _, rfl, mapM_eq_ok_iff.2 (forall₂_read_of_convert hcs), ?_⟩
    -- of all steps only reading fails so
    rcases enlist_eq_error_iff.1 hs with hconvert | ⟨c, cause, -, hadd, hf⟩
    · rcases convert_eq_error_iff.1 hconvert with hread | ⟨d, cause, -, hcause, hf⟩
      · exact hread
      · obtain ⟨spec, reason', column, -, -, rfl⟩ := Mapping.malformed_of_fields hcause
        cases hf
    · cases hf
      rcases Registry.add_eq_error_iff.1 hadd with ⟨-, hcause⟩ | ⟨-, -, hcause⟩ <;> cases hcause

/-- Declarations that cannot all be read in the order of the tree cannot be listed. -/
theorem exists_list_eq_error {f : Failure}
    (h : (t.declarations config.declarationName).mapM (Declaration.read file) = .error f) :
    ∃ f', list config file t = .error f' := by
  cases hlist : list config file t with
  | error f' => exact ⟨f', rfl⟩
  | ok ds =>
    rw [list_eq, mapM_eq_ok_iff] at hlist
    obtain ⟨ds', hds', -⟩ := List.perm_comp_forall₂ (t.perm_byPlace config.declarationName).symm hlist
    rw [mapM_eq_ok_iff.2 hds'] at h
    cases h

end Pass

/-- What can be compiled can be listed, and the list holds what was compiled, by place: it is in the order of the
pass just if the declarations of the tree stand in the order of their places. What cannot be listed cannot be
compiled, and what is refused for the form of a declaration cannot be listed. If the declarations do stand in
that order, the list is in the order of the new entries and of the registrations too, and for the form of a
declaration either of them is refused alike. What is read of a text has them in that order if no comment moves a
statement of it. -/
theorem compile_listing (s : Source) (config : Config) :
    (∀ text, (s.compile config).result = .ok text → ∃ r ds,
      (Pass.run config s.file s.title s.tree).result = .ok r ∧ r.tree.print = .ok text ∧
      s.declarations config = .ok ds ∧ ds.Perm (r.added.map (·.declaration)) ∧
      ds.Pairwise (fun d d' => d.pos.NotAfter d'.pos) ∧
      (s.tree.InPlace config.declarationName ↔ ds = r.added.map (·.declaration) ∧
        ((s.tree.declarations config.declarationName).map (·.span.start)).Nodup)) ∧
    (∀ f, s.declarations config = .error f → ∃ f', (s.compile config).result = .error f') ∧
    (∀ reason l, (s.compile config).result = .error (.rejected ⟨.declaration reason, l⟩) →
      ∃ f, s.declarations config = .error f) ∧
    (s.tree.InPlace config.declarationName →
      (∀ text, (s.compile config).result = .ok text → ∃ r seed cs,
        (Pass.run config s.file s.title s.tree).result = .ok r ∧ r.tree.print = .ok text ∧
        s.tree.seedTable? config.seedTable = some seed ∧
        r.tree.seedTable? config.seedTable =
          some ⟨seed.entries ++ cs.map fun c => .pair (.str c.declaration.tag) c.aToB, seed.pos⟩ ∧
        List.Forall₂ (Pass.Paired config s.file s.tree r.tree)
          (s.tree.declarationPlaces config.declarationName) cs ∧
        s.declarations config = .ok (cs.map (·.declaration)) ∧
        cs.map (·.declaration.pos) = (s.tree.declarations config.declarationName).map (·.span.start)) ∧
      ∀ reason l, (s.compile config).result = .error (.rejected ⟨.declaration reason, l⟩) →
        s.declarations config = .error (.rejected ⟨.declaration reason, l⟩)) ∧
    (Tree.read s.code = .ok s.tree → s.IsSteady → s.tree.InPlace config.declarationName) := by
  have hread {reason : Text} {l : Location}
      (h : (s.compile config).result = .error (.rejected ⟨.declaration reason, l⟩)) :
      (s.tree.declarations config.declarationName).mapM (Declaration.read s.file) =
        .error (.rejected ⟨.declaration reason, l⟩) := by
    rcases Source.compile_eq_error_iff.1 h with hrun | ⟨r, fault, -, -, hf⟩
    · exact Pass.mapM_read_of_run hrun
    · cases hf
  refine ⟨fun text h => ?_, fun f h => ?_, fun reason l h => Pass.exists_list_eq_error (hread h),
    fun hplace => ⟨fun text h => ?_, fun reason l h => ?_⟩,
    fun hread hsteady => Tree.inPlace_read hread hsteady _⟩
  · obtain ⟨r, hr, hprint⟩ := Source.compile_eq_ok_iff.1 h
    obtain ⟨seed, pairs, hended⟩ := Pass.ended_of_run hr
    obtain ⟨ds, hds, hperm, hsorted⟩ := hended.exists_list
    exact ⟨r, ds, hr, hprint, hds, hperm, hsorted, hended.inPlace_iff hds hsorted⟩
  · obtain ⟨f', hf'⟩ := Pass.exists_run_eq_error s.title h
    exact ⟨f', Source.compile_eq_error_iff.2 (.inl hf')⟩
  · obtain ⟨r, hr, hprint⟩ := Source.compile_eq_ok_iff.1 h
    obtain ⟨seed, pairs, hended⟩ := Pass.ended_of_run hr
    have hpos := Pass.pos_of_forall₂_read (Pass.forall₂_read_of_convert hended.compiled)
    rw [List.map_map] at hpos
    exact ⟨r, seed, r.added, hr, hprint, hended.found, hended.newEntries_eq ▸ hended.seedTable?_tree,
      hended.forall₂_paired, hended.list_eq_ok hplace, hpos⟩
  · show Pass.list config s.file s.tree = _
    rw [Pass.list_eq, hplace.byPlace_eq]
    exact hread h

namespace Sample

theorem inPlace_tree : tree.InPlace "map" := by
  unfold Tree.InPlace
  decide

/-- The statement that declares a tag, without a constructor. -/
def lone (span : Span) (tag : String) : Stmt :=
  .simple span (.expr (.call (.name "map") [.string tag] []))

def loopsComment : Comment := ⟨"# loops", false, ⟨3, 4, 3, 11⟩⟩

/-- The statements of a source with a block in which they follow some comments. -/
def flawedWith (comments : List Stmt) : Tree :=
  [.simple ⟨1, 0, 1, 11⟩ (.assign [.name "A_TO_B"] (.dict []) ⟨1, 9⟩),
    .block ⟨2, 0, 4, 36⟩ (.ifThen (.name "x")) (comments ++
      [.simple ⟨4, 4, 4, 25⟩ (declaration "While" (.name "B_While")), lone ⟨4, 27, 4, 36⟩ "If"]) [] [] []]

/-- A source whose second declaration lacks a constructor. -/
def flawed : Source :=
  ⟨"<string>", none, "A_TO_B = {}\nif x:\n    # loops\n    map(\"While\", B_While); map(\"If\")\n",
    flawedWith [.comment loopsComment], false⟩

theorem parse_flawed : Tree.parse flawed.code.toList = .ok (flawedWith []) := by decide +kernel

/-- The regions of the source: the whole of it, and its block. -/
def flawedRegions : List Comment.Region :=
  [⟨1, 5, none, [(1, 5, .body)], none⟩, ⟨2, 4, some ⟨2, 0⟩, [(3, 4, .body)], some ⟨2, 0, 4, 36⟩⟩]

theorem regions_flawed :
    Comment.regions (.ofSource flawed.code.toList) (flawedWith []) = some flawedRegions := by decide +kernel

theorem place_flawed :
    Comment.place flawed.code.toList [loopsComment] (flawedWith []) = some flawed.tree := by
  have hadd : Comment.addTo flawedRegions loopsComment
      [.simple ⟨4, 4, 4, 25⟩ (declaration "While" (.name "B_While")), lone ⟨4, 27, 4, 36⟩ "If"] =
      [.comment loopsComment, .simple ⟨4, 4, 4, 25⟩ (declaration "While" (.name "B_While")),
        lone ⟨4, 27, 4, 36⟩ "If"] := by
    simp [Comment.addTo, List.mergeSort, Comment.lastLine, Comment.finalEnd, Comment.separate, Stmt.span,
      Stmt.isComment, lone, loopsComment]
  rw [Comment.place, if_neg (by simp), regions_flawed]
  exact congrArg (fun suite => some (Comment.widenAll flawedRegions [_, .block _ _ suite [] [] []])) hadd

theorem read_flawed : Tree.read flawed.code = .ok flawed.tree := by
  refine Tree.read_eq_ok_iff.2 ⟨?_, flawedWith [], [loopsComment], parse_flawed, ?_, place_flawed⟩ <;> decide +kernel

theorem isSteady_flawed : flawed.IsSteady := by
  intro bare cs rs hbare _ _ hrs
  cases parse_flawed.symm.trans hbare
  cases regions_flawed.symm.trans hrs
  decide

theorem compile_flawed : (flawed.compile {}).result = .error (.rejected
    ⟨.declaration (.ofString "Expected 2 or 3 arguments, found 1: map('If')"), ⟨none, some 4, some 27⟩⟩) := rfl

end Sample

/-- The list of a source with declarations in two suites, and what is listed of one that is read of a text with a
comment and refused for its second declaration. -/
theorem compile_listing_sample :
    (Sample.tree.InPlace "map" ∧ (Sample.source.compile {}).result = .ok Sample.rewritten.text ∧
      ∃ r seed cs, (Pass.run {} Sample.source.file Sample.source.title Sample.tree).result = .ok r ∧
        r.tree.print = .ok Sample.rewritten.text ∧
        Sample.tree.seedTable? "A_TO_B" = some seed ∧
        r.tree.seedTable? "A_TO_B" =
          some ⟨seed.entries ++ cs.map fun c => .pair (.str c.declaration.tag) c.aToB, seed.pos⟩ ∧
        List.Forall₂ (Pass.Paired {} none Sample.tree r.tree) (Sample.tree.declarationPlaces "map") cs ∧
        Sample.source.declarations {} = .ok (cs.map (·.declaration)) ∧
        cs.map (·.declaration.pos) = (Sample.tree.declarations "map").map (·.span.start)) ∧
    Tree.read Sample.flawed.code = .ok Sample.flawed.tree ∧ Sample.flawed.IsSteady ∧
    Sample.flawed.tree.InPlace "map" ∧
    Sample.flawed.declarations {} = .error (.rejected
      ⟨.declaration (.ofString "Expected 2 or 3 arguments, found 1: map('If')"), ⟨none, some 4, some 27⟩⟩) :=
  ⟨⟨Sample.inPlace_tree, Sample.compile_source,
      ((compile_listing Sample.source {}).2.2.2.1 Sample.inPlace_tree).1 _ Sample.compile_source⟩,
    Sample.read_flawed, Sample.isSteady_flawed,
    (compile_listing Sample.flawed {}).2.2.2.2 Sample.read_flawed Sample.isSteady_flawed,
    ((compile_listing Sample.flawed {}).2.2.2.1
      ((compile_listing Sample.flawed {}).2.2.2.2 Sample.read_flawed Sample.isSteady_flawed)).2 _ _
      Sample.compile_flawed⟩

namespace Sample

def shuffledComment : Comment := ⟨"# c", false, ⟨3, 4, 3, 7⟩⟩

/-- The statements of a source with a comment in front of a block of one line. -/
def unshuffled : Tree :=
  [.simple ⟨1, 0, 1, 11⟩ (.assign [.name "A_TO_B"] (.dict []) ⟨1, 9⟩),
    .block ⟨2, 0, 7, 5⟩ (.ifThen (.name "x"))
      [.block ⟨5, 4, 5, 18⟩ (.ifThen (.name "y")) [lone ⟨5, 10, 5, 18⟩ "A"] [] [] [],
        lone ⟨6, 4, 6, 12⟩ "B",
        .simple ⟨7, 4, 7, 5⟩ (.expr (.name "z"))] [] [] []]

/-- The source with its comment in place. The inner block covers the lines that follow it, and so it stands behind
the declaration that does. -/
def shuffled : Source :=
  ⟨"<string>", none, "A_TO_B = {}\nif x:\n    # c\n\n    if y: map(\"A\")\n    map(\"B\")\n    z\n",
    [.simple ⟨1, 0, 1, 11⟩ (.assign [.name "A_TO_B"] (.dict []) ⟨1, 9⟩),
      .block ⟨2, 0, 7, 5⟩ (.ifThen (.name "x"))
        [.comment shuffledComment,
          lone ⟨6, 4, 6, 12⟩ "B",
          .block ⟨5, 4, 7, 5⟩ (.ifThen (.name "y")) [lone ⟨5, 10, 5, 18⟩ "A"] [] [] [],
          .simple ⟨7, 4, 7, 5⟩ (.expr (.name "z"))] [] [] []], false⟩

theorem parse_shuffled : Tree.parse shuffled.code.toList = .ok unshuffled := by decide +kernel

def shuffledRegions : List Comment.Region :=
  [⟨1, 8, none, [(1, 8, .body)], none⟩, ⟨2, 7, some ⟨2, 0⟩, [(5, 7, .body)], some ⟨2, 0, 7, 5⟩⟩,
    ⟨5, 7, some ⟨5, 4⟩, [(5, 7, .body)], some ⟨5, 4, 7, 5⟩⟩]

theorem place_shuffled :
    Comment.place shuffled.code.toList [shuffledComment] unshuffled = some shuffled.tree := by
  have hregions : Comment.regions (.ofSource shuffled.code.toList) unshuffled = some shuffledRegions := by
    decide +kernel
  -- the inner block stretches as far as the block around it, so what follows it on the next line comes first
  have hadd : Comment.addTo shuffledRegions shuffledComment
      [.block ⟨5, 4, 5, 18⟩ (.ifThen (.name "y")) [lone ⟨5, 10, 5, 18⟩ "A"] [] [] [], lone ⟨6, 4, 6, 12⟩ "B",
        .simple ⟨7, 4, 7, 5⟩ (.expr (.name "z"))] =
      [.comment shuffledComment, lone ⟨6, 4, 6, 12⟩ "B",
        .block ⟨5, 4, 5, 18⟩ (.ifThen (.name "y")) [lone ⟨5, 10, 5, 18⟩ "A"] [] [] [],
        .simple ⟨7, 4, 7, 5⟩ (.expr (.name "z"))] := by
    simp [Comment.addTo, List.mergeSort, Comment.lastLine, Comment.finalEnd, Comment.separate, Stmt.span, Span.start,
      Stmt.isComment, lone, shuffledComment, shuffledRegions]
  rw [Comment.place, if_neg (by simp), hregions]
  exact congrArg (fun suite => some (Comment.widenAll shuffledRegions [_, .block _ _ suite [] [] []])) hadd

theorem read_shuffled : Tree.read shuffled.code = .ok shuffled.tree := by
  refine Tree.read_eq_ok_iff.2 ⟨?_, unshuffled, [shuffledComment], parse_shuffled, ?_, place_shuffled⟩ <;>
    decide +kernel

theorem byPlace_shuffled :
    shuffled.tree.byPlace "map" = [lone ⟨5, 10, 5, 18⟩ "A", lone ⟨6, 4, 6, 12⟩ "B"] := by
  have hwalk : shuffled.tree.walk.filter (·.isDeclaration "map") =
      [lone ⟨6, 4, 6, 12⟩ "B", lone ⟨5, 10, 5, 18⟩ "A"] := rfl
  rw [Tree.byPlace, hwalk]
  simp [List.mergeSort, Stmt.startsBy, Stmt.span, lone]

end Sample

/-- A comment can part the two orders: the pass refuses one declaration and the list another one. -/
theorem compile_listing_shuffled :
    Tree.read Sample.shuffled.code = .ok Sample.shuffled.tree ∧
    ¬ Sample.shuffled.tree.InPlace "map" ∧
    (Sample.shuffled.compile {}).result = .error (.rejected
      ⟨.declaration (.ofString "Expected 2 or 3 arguments, found 1: map('B')"), ⟨none, some 6, some 4⟩⟩) ∧
    Sample.shuffled.declarations {} = .error (.rejected
      ⟨.declaration (.ofString "Expected 2 or 3 arguments, found 1: map('A')"), ⟨none, some 5, some 10⟩⟩) := by
  refine ⟨Sample.read_shuffled, ?_, rfl, ?_⟩
  · unfold Tree.InPlace
    decide
  · show Pass.list {} none Sample.shuffled.tree = _
    rw [Pass.list_eq, Sample.byPlace_shuffled]
    rfl

end Crosswalk

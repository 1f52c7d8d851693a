import Crosswalk.Proofs.Pass.Run
import Crosswalk.Proofs.Tree.Read

/-!
# Errors and their files

The error of a source that has a file is to name that file, `CompileError.PointsAt`. What is wrong with a declaration
is found in places that know of no file, and located on the way out; that there is no seed table is located where it
is found. The error of a seed table with a key that is no string literal, `Registry.Unkeyed`, is never located, and it
is the only one: `compile_origin`.
-/

namespace Crosswalk

namespace CompileError

/-- The error names the file, and its text begins with the name. -/
structure PointsAt (file : String) (e : CompileError) : Prop where
  named : e.location.file = some file
  text : Text.ofString file <+: e.message

/-- The file comes first in the text of an error that names it. -/
theorem pointsAt_iff {file : String} {e : CompileError} : e.PointsAt file ↔ e.location.file = some file := by
  refine ⟨PointsAt.named, fun h => ⟨h, ?_⟩⟩
  obtain ⟨rest, hparts⟩ : ∃ rest, e.location.parts = (file ++ "") :: rest := by
    rw [Location.parts, h, String.append_empty]
    exact ⟨_, rfl⟩
  rw [message, hparts, List.isEmpty_cons, if_neg Bool.false_ne_true, String.intercalate_cons_append,
    String.append_assoc, Text.ofString_append, List.append_assoc]
  exact List.prefix_append _ _

end CompileError

/-! ## The places where errors come from -/

/-- What is told of a statement that is no declaration is where it is. -/
theorem Declaration.location_of_read {file : Option String} {s : Stmt} {e : CompileError}
    (h : Declaration.read file s = .error (.rejected e)) : e.location = locationOf file s := by
  unfold read at h
  split at h
  · obtain ⟨problem, -, hfailure⟩ := mapError_eq_error.1 h
    unfold failure at hfailure
    split at hfailure
    · cases hfailure
      rfl
    · cases hfailure
  · cases h

namespace Registry

/-- The error of a seed table with a key that is no string literal. It tells a line, but no file. -/
inductive Unkeyed (seed : SeedTable) : CompileError → Prop
  | intro {entry : Entry} {text : String} (hentry : entry ∈ seed.entries) (hkey : ∀ p, ¬ IsLiteral entry p)
      (htext : (Expr.dict seed.entries).print = .ok text) :
      Unkeyed seed ⟨.general (.ofString ("The seed table may only hold string literal keys: " ++ text)),
        ⟨none, some seed.pos.line, none⟩⟩

/-- No registry is found because there is no seed table, which is told with the file, or because of its keys. -/
theorem origin_of_locate {name : String} {file : Option String} {t : Tree} {e : CompileError}
    (h : locate name file t = .error (.rejected e)) :
    e.location.file = file ∨ ∃ seed, t.seedTable? name = some seed ∧ Unkeyed seed e := by
  rcases locate_eq_error_iff.1 h with ⟨-, hf⟩ | ⟨seed, hseed, hnone, hf⟩
  · cases hf
    exact .inl rfl
  · obtain ⟨entry, hentry, hkey⟩ := literalPairs_eq_none_iff.1 hnone
    unfold seedFailure at hf
    split at hf
    · rename_i text htext
      cases hf
      exact .inr ⟨seed, hseed, .intro hentry hkey htext⟩
    · cases hf

end Registry

namespace Pass

variable {config : Config} {file : Option String} {source : String} {t : Tree} {e : CompileError}

theorem location_of_convert {s : Stmt} (h : convert config file s = .error (.rejected e)) :
    e.location = Declaration.locationOf file s := by
  rcases convert_eq_error_iff.1 h with h | ⟨d, cause, -, -, hf⟩
  · exact Declaration.location_of_read h
  · cases hf
    rfl

/-- Whatever keeps a declaration from being added is located where the declaration stands. -/
theorem location_of_enlist {w : Progress} {s : Stmt}
    (h : (enlist config file w s).result = .error (.rejected e)) : e.location = Declaration.locationOf file s := by
  rcases enlist_eq_error_iff.1 h with h | ⟨c, cause, -, -, hf⟩
  · exact location_of_convert h
  · cases hf
    rfl

/-- The error of a pass names the file of the source, or comes from the keys of the seed table. -/
theorem origin_of_run (h : (run config file source t).result = .error (.rejected e)) :
    e.location.file = file ∨ ∃ seed, t.seedTable? config.seedTable = some seed ∧ Registry.Unkeyed seed e := by
  rcases run_eq_error_iff.1 h with h | ⟨start, seat, -, h⟩
  · exact Registry.origin_of_locate h
  · obtain ⟨_, s, _, _, -, -, hs⟩ := enlistAll_eq_error_iff.1 h
    rw [location_of_enlist hs]
    exact .inl rfl

/-- The error of a list of declarations names the file of the source. -/
theorem file_of_list (h : list config file t = .error (.rejected e)) : e.location.file = file := by
  obtain ⟨_, s, _, _, -, -, hs⟩ := mapM_eq_error_iff.1 h
  rw [Declaration.location_of_read hs]
  rfl

end Pass

/-- The errors of a source with a file point at the file, those of listing its declarations and those of compiling
it. Only the error of a seed table with a key that is no string literal does not. -/
theorem compile_origin {s : Source} {file : String} (hfile : s.file = some file) (config : Config) :
    (∀ e, s.declarations config = .error (.rejected e) → e.PointsAt file) ∧
    ∀ e, (s.compile config).result = .error (.rejected e) →
      (e.PointsAt file ↔ ¬ ∃ seed, s.tree.seedTable? config.seedTable = some seed ∧ Registry.Unkeyed seed e) := by
  simp only [CompileError.pointsAt_iff, ← hfile]
  refine ⟨fun e h => Pass.file_of_list h, fun e h => ?_⟩
  constructor
  · rintro hnamed ⟨seed, -, hunkeyed⟩
    cases hunkeyed
    rw [hfile] at hnamed
    cases hnamed
  · intro hkeyed
    rcases Source.compile_eq_error_iff.1 h with hrun | ⟨r, fault, -, -, hf⟩
    · exact (Pass.origin_of_run hrun).resolve_right hkeyed
    · cases hf

namespace Sample

/-- A source with a file, whose declaration lacks a constructor. -/
def unfinished : Source :=
  ⟨"decls.py", some "decls.py", "A_TO_B = {}\nmap('E')\n",
    [.simple ⟨1, 0, 1, 11⟩ (.assign [.name "A_TO_B"] (.dict []) ⟨1, 9⟩),
      .simple ⟨2, 0, 2, 8⟩ (.expr (.call (.name "map") [.string "E"] []))], false⟩

/-- The error that the declaration is refused with. -/
def unfinishedError : CompileError :=
  ⟨.declaration (.ofString "Expected 2 or 3 arguments, found 1: map('E')"), ⟨some "decls.py", some 2, some 0⟩⟩

theorem list_unfinished : unfinished.declarations {} = .error (.rejected unfinishedError) := by
  show ([unfinished.tree[1]].mergeSort _).mapM _ = _
  rw [List.mergeSort_singleton]
  rfl

theorem compile_unfinished : (unfinished.compile {}).result = .error (.rejected unfinishedError) := rfl

/-- A source with a file, whose seed table takes its entries from another dict. -/
def spreading : Source :=
  ⟨"decls.py", some "decls.py", "A_TO_B = \x7b**x\x7d\n",
    [.simple ⟨1, 0, 1, 14⟩ (.assign [.name "A_TO_B"] (.dict [.spread (.name "x")]) ⟨1, 9⟩)], false⟩

/-- The error that its seed table is refused with. -/
def spreadingError : CompileError :=
  ⟨.general (.ofString "The seed table may only hold string literal keys: \x7b**x\x7d"), ⟨none, some 1, none⟩⟩

theorem read_spreading : Tree.read spreading.code = .ok spreading.tree := by
  refine Tree.read_eq_ok_iff.2 ⟨?_, spreading.tree, [], ?_, ?_, Comment.place_nil _ _⟩ <;> decide +kernel

end Sample

/-- The error of a declaration that is refused in a file. -/
theorem compile_origin_sample : Sample.unfinished.file = some "decls.py" ∧
    Sample.unfinished.declarations {} = .error (.rejected Sample.unfinishedError) ∧
    (Sample.unfinished.compile {}).result = .error (.rejected Sample.unfinishedError) ∧
    Sample.unfinishedError.PointsAt "decls.py" ∧
    ¬ ∃ seed, Sample.unfinished.tree.seedTable? "A_TO_B" = some seed ∧
      Registry.Unkeyed seed Sample.unfinishedError := by
  obtain ⟨hlisted, hcompiled⟩ := compile_origin (s := Sample.unfinished) rfl {}
  have hpoints := hlisted _ Sample.list_unfinished
  exact ⟨rfl, Sample.list_unfinished, Sample.compile_unfinished, hpoints,
    (hcompiled _ Sample.compile_unfinished).1 hpoints⟩

/-- The error of a seed table whose keys are not all string literals does not point at the file of the source. -/
theorem compile_origin_unkeyed :
    Tree.read Sample.spreading.code = .ok Sample.spreading.tree ∧ Sample.spreading.file = some "decls.py" ∧
    (Sample.spreading.compile {}).result = .error (.rejected Sample.spreadingError) ∧
    Sample.spreadingError.location.file = none ∧ ¬ Sample.spreadingError.PointsAt "decls.py" := by
  refine ⟨Sample.read_spreading, rfl, rfl, rfl, ?_⟩
  rw [CompileError.pointsAt_iff]
  exact Option.some_ne_none _ ∘ Eq.symm

end Crosswalk

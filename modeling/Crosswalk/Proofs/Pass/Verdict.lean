import Crosswalk.Proofs.Mapping.Grammar
import Crosswalk.Proofs.Pass.Run
import Crosswalk.Proofs.Tree.Read

/-!
# What a pass decides

A source is accepted if it has a seed table with string literals as keys, and declarations that are written as
they should be, of which no two have the same tag or the same constructor: `Pass.Accepts`. Otherwise it is
refused, for its seed table or for the first declaration with a fault: `Pass.Refuses`. Neither speaks of
registries or of running anything; that a pass decides just so is said in `compile_verdict`.
-/

namespace Crosswalk

/-- A failure whose message quotes an expression. If the expression has no text, that is the failure. -/
inductive Quoting (e : Expr) (error : String → CompileError) : Failure → Prop
  | text {text : String} (h : e.print = .ok text) : Quoting e error (.rejected (error text))
  | unprintable {fault : PrintFault} (h : e.print = .error fault) : Quoting e error (.unprintable fault)

theorem quoting_iff {e : Expr} {error : String → CompileError} {failure : Failure} :
    Quoting e error failure ↔
      (match e.print with
        | .ok text => .rejected (error text)
        | .error fault => .unprintable fault) = failure := by
  constructor
  · intro h
    cases h with
    | text h => rw [h]
    | unprintable h => rw [h]
  · intro h
    split at h
    · rename_i htext
      exact h ▸ .text htext
    · rename_i hfault
      exact h ▸ .unprintable hfault

namespace Declaration

/-- Whether the mapping of a declaration is of the grammar, if there is one. -/
def HasFields (d : Declaration) : Prop :=
  ∀ spec, d.mapping = some spec → ∃ fields, Mapping.Writes spec fields

theorem hasFields_iff {d : Declaration} : d.HasFields ↔ ∃ fields, Mapping.fields d.mapping = .ok fields := by
  rw [HasFields]
  cases d.mapping with
  | none => exact iff_of_true (by simp) ⟨[], rfl⟩
  | some spec =>
    simp only [Option.some.injEq, forall_eq', Mapping.fields, mapError_eq_ok, Mapping.parse_eq_ok_iff]

end Declaration

namespace Pass

/-! ## Declarations without a fault -/

/-- Statements of a source declare one thing each, next to a seed table with the keys given. -/
structure Sound (config : Config) (keys : List Text) (ss : List Stmt) (ds : List Declaration) : Prop where
  written : List.Forall₂ (fun s d => d.Written config.declarationName s ∧ d.HasFields) ss ds
  tags : (ds.map (·.tag)).Nodup
  unseeded : ∀ d ∈ ds, d.tag ∉ keys
  constructors : (ds.map (·.constructor.text)).Nodup

variable {config : Config} {file : Option String} {pairs : List (Text × Expr)}

/-- A statement is compiled if it is written as a declaration whose mapping has fields. -/
theorem exists_convert_iff (file : Option String) {s : Stmt} {d : Declaration}
    (hs : s.isDeclaration config.declarationName = true) :
    (∃ c, convert config file s = .ok c ∧ c.declaration = d) ↔
      d.Written config.declarationName s ∧ d.HasFields := by
  rw [← Declaration.read_eq_ok_iff_written file hs, Declaration.hasFields_iff]
  constructor
  · rintro ⟨c, hc, rfl⟩
    obtain ⟨hread, hcompile⟩ := convert_eq_ok_iff.1 hc
    obtain ⟨fields, hfields, -⟩ := Conversion.compile_eq_ok_iff.1 hcompile
    exact ⟨hread, fields, hfields⟩
  · rintro ⟨hread, fields, hfields⟩
    exact ⟨.ofFields config d fields,
      convert_eq_ok_iff.2 ⟨hread, Conversion.compile_eq_ok_iff.2 ⟨fields, hfields, rfl⟩⟩, rfl⟩

/-- Statements are compiled one by one if they are written as declarations whose mappings have fields. -/
theorem exists_forall₂_convert_iff (file : Option String) {ss : List Stmt} {ds : List Declaration}
    (hss : ∀ s ∈ ss, s.isDeclaration config.declarationName = true) :
    (∃ cs, List.Forall₂ (fun s c => convert config file s = .ok c) ss cs ∧ cs.map (·.declaration) = ds) ↔
      List.Forall₂ (fun s d => d.Written config.declarationName s ∧ d.HasFields) ss ds := by
  have hiff (s : Stmt) (hs : s ∈ ss) (d : Declaration) := exists_convert_iff file (d := d) (hss s hs)
  rw [← forall₂_exists_iff]
  constructor
  · intro h
    exact ((List.forall₂_and_left _ _).2 ⟨fun s hs => hs, h⟩).imp fun s d ⟨hs, h⟩ => (hiff s hs d).1 h
  · intro h
    exact ((List.forall₂_and_left _ _).2 ⟨fun s hs => hs, h⟩).imp fun s d ⟨hs, h⟩ => (hiff s hs d).2 h

/-- Conversions are distinct next to a seed table if what they are compiled from is sound. -/
theorem Sound.distinct {ss : List Stmt} {cs : List Conversion}
    (h : Sound config (pairs.map (·.1)) ss (cs.map (·.declaration))) :
    ((Registry.start (.ofPairs pairs)).extend cs).Distinct where
  tags := by
    have htags := h.tags
    rw [List.map_map] at htags
    rw [Registry.keys_aToB_extend]
    refine List.nodup_append.2 ⟨Table.nodup_keys_ofPairs pairs, htags, ?_⟩
    rintro tag htag _ hadded rfl
    obtain ⟨c, hc, rfl⟩ := List.mem_map.1 hadded
    exact h.unseeded _ (List.mem_map_of_mem hc) (Table.mem_keys_ofPairs.1 htag)
  constructors := by
    have hconstructors := h.constructors
    rw [List.map_map] at hconstructors
    rw [Registry.keys_bToA_extend]
    exact hconstructors

/-- Declarations are all added to the pairs of a seed table just if they are sound. -/
theorem exists_enlistAll_iff (file : Option String) {ss : List Stmt} {ds : List Declaration}
    (hss : ∀ s ∈ ss, s.isDeclaration config.declarationName = true) :
    (∃ cs, (enlistAll config file (.start pairs) ss).result = .ok ((Progress.start pairs).extend cs) ∧
        cs.map (·.declaration) = ds) ↔ Sound config (pairs.map (·.1)) ss ds := by
  constructor
  · rintro ⟨cs, h, rfl⟩
    obtain ⟨cs', hcs, heq, hdistinct⟩ := added_of_enlistAll (Registry.distinct_ofPairs pairs) h
    obtain rfl : cs' = cs := congrArg Progress.added heq
    obtain ⟨htags, hnew⟩ := hdistinct.tags_of_start
    have hconstructors := hdistinct.constructors_of_start
    constructor
    · exact (exists_forall₂_convert_iff file hss).1 ⟨_, hcs, rfl⟩
    · rw [List.map_map]
      exact htags
    · rw [List.forall_mem_map]
      exact hnew
    · rw [List.map_map]
      exact hconstructors
  · intro h
    obtain ⟨cs, hcs, rfl⟩ := (exists_forall₂_convert_iff file hss).2 h.written
    exact ⟨cs, enlistAll_of_forall₂ hcs h.distinct, rfl⟩

/-! ## The first fault -/

/-- What is wrong with a statement that comes after some declarations without a fault. Its shape is looked at
first, then its mapping, its tag and its constructor. -/
inductive Faulty (config : Config) (file : Option String) (keys : List Text) (ds : List Declaration)
    (s : Stmt) : Failure → Prop
  | shape {arguments : List Expr} {keywords : List Keyword} {problem : Declaration.Problem} {failure : Failure}
      (hs : s = .simple s.span (.expr (.call (.name config.declarationName) arguments keywords)))
      (hflaw : Declaration.Flaw arguments keywords problem)
      (h : Quoting (.call (.name config.declarationName) arguments keywords) (fun text =>
        ⟨.declaration (.ofString (problem.message ++ ": " ++ text)), Declaration.locationOf file s⟩) failure) :
      Faulty config file keys ds s failure
  | mapping {d : Declaration} {spec reason : Text} {column : Int} (hs : d.Written config.declarationName s)
      (hspec : d.mapping = some spec) (hfields : ¬ d.HasFields)
      (h : Mapping.fields (some spec) = .error (.mapping reason spec column)) :
      Faulty config file keys ds s (.rejected ⟨.mapping reason spec column, Declaration.locationOf file s⟩)
  | tag {d : Declaration} (hs : d.Written config.declarationName s) (hfields : d.HasFields)
      (h : d.tag ∈ keys ∨ d.tag ∈ ds.map (·.tag)) :
      Faulty config file keys ds s
        (.rejected ⟨.duplicate (.ofString "A tag") d.tag, Declaration.locationOf file s⟩)
  | constructor {d : Declaration} (hs : d.Written config.declarationName s) (hfields : d.HasFields)
      (htag : ¬ (d.tag ∈ keys ∨ d.tag ∈ ds.map (·.tag)))
      (h : d.constructor.text ∈ ds.map (·.constructor.text)) :
      Faulty config file keys ds s (.rejected ⟨.duplicate (.ofString "B constructor")
        (.ofString d.constructor.text), Declaration.locationOf file s⟩)

variable {cs : List Conversion}

/-- The tags that are taken are the keys of the seed table and what was declared. -/
theorem mem_keys_aToB {tag : Text} : tag ∈ ((Progress.start pairs).extend cs).registry.aToB.keys ↔
    tag ∈ pairs.map (·.1) ∨ tag ∈ (cs.map (·.declaration)).map (·.tag) := by
  rw [Progress.extend, Registry.keys_aToB_extend, List.mem_append, List.map_map]
  exact or_congr_left Table.mem_keys_ofPairs

theorem mem_keys_bToA {constructor : String} :
    constructor ∈ ((Progress.start pairs).extend cs).registry.bToA.keys ↔
      constructor ∈ (cs.map (·.declaration)).map (·.constructor.text) := by
  rw [Progress.extend, Registry.keys_bToA_extend, List.map_map]
  rfl

/-- A fault keeps a declaration from being added to what was declared before it, and nothing else does. -/
theorem enlist_eq_error_iff_faulty {s : Stmt} {f : Failure}
    (hs : s.isDeclaration config.declarationName = true) :
    (enlist config file ((Progress.start pairs).extend cs) s).result = .error f ↔
      Faulty config file (pairs.map (·.1)) (cs.map (·.declaration)) s f := by
  rw [enlist_eq_error_iff, convert_eq_error_iff, Declaration.read_eq_error_iff hs]
  simp only [Declaration.read_eq_ok_iff_written file hs]
  constructor
  · rintro ((⟨arguments, keywords, problem, hsimple, hflaw, hf⟩ | ⟨d, cause, hd, hcause, rfl⟩) |
      ⟨c, cause, hc, hadd, rfl⟩)
    · exact .shape hsimple hflaw (quoting_iff.2 hf)
    · obtain ⟨spec, reason, column, hspec, hnone, rfl⟩ := Mapping.malformed_of_fields hcause
      exact .mapping hd hspec (fun h => hnone (h spec hspec)) (hspec ▸ hcause)
    · obtain ⟨hwritten, hfields⟩ := (exists_convert_iff file hs).1 ⟨c, hc, rfl⟩
      rw [Registry.add_eq_error_iff, mem_keys_aToB, mem_keys_bToA] at hadd
      rcases hadd with ⟨htag, rfl⟩ | ⟨htag, hconstructor, rfl⟩
      · exact .tag hwritten hfields htag
      · exact .constructor hwritten hfields htag hconstructor
  · intro h
    cases h with
    | shape hsimple hflaw h => exact .inl (.inl ⟨_, _, _, hsimple, hflaw, quoting_iff.1 h⟩)
    | mapping hd hspec hfields h => exact .inl (.inr ⟨_, _, hd, hspec ▸ h, rfl⟩)
    | tag hd hfields htag =>
      obtain ⟨c, hc, rfl⟩ := (exists_convert_iff file hs).2 ⟨hd, hfields⟩
      refine .inr ⟨c, _, hc, ?_, rfl⟩
      rw [Registry.add_eq_error_iff, mem_keys_aToB]
      exact .inl ⟨htag, rfl⟩
    | constructor hd hfields htag hconstructor =>
      obtain ⟨c, hc, rfl⟩ := (exists_convert_iff file hs).2 ⟨hd, hfields⟩
      refine .inr ⟨c, _, hc, ?_, rfl⟩
      rw [Registry.add_eq_error_iff, mem_keys_aToB, mem_keys_bToA]
      exact .inr ⟨htag, hconstructor, rfl⟩

/-! ## The verdict -/

/-- What a source must be to be accepted. -/
structure Accepts (config : Config) (t : Tree) (seed : SeedTable) (pairs : List (Text × Expr))
    (ds : List Declaration) : Prop where
  found : ∃ seat, IsSeat config.seedTable t seat ∧ seat.seed? config.seedTable t = some seed
  literal : List.Forall₂ Registry.IsLiteral seed.entries pairs
  sound : Sound config (pairs.map (·.1)) (t.declarations config.declarationName) ds

/-- What a source is refused for: that it has no seed table, or else a key in it that is no string literal, or
else the first of its declarations with a fault. -/
inductive Refuses (config : Config) (file : Option String) (t : Tree) : Failure → Prop
  | noTable (h : ∀ p : Place, p.seed? config.seedTable t = none) :
      Refuses config file t (.rejected ⟨.seedTable (.ofString config.seedTable), ⟨file, none, none⟩⟩)
  | badKey {seat : Place} {seed : SeedTable} {e : Entry} {failure : Failure}
      (hseat : IsSeat config.seedTable t seat) (hseed : seat.seed? config.seedTable t = some seed)
      (he : e ∈ seed.entries) (hkey : ∀ p, ¬ Registry.IsLiteral e p)
      (h : Quoting (.dict seed.entries) (fun text =>
        ⟨.general (.ofString ("The seed table may only hold string literal keys: " ++ text)),
          ⟨none, some seed.pos.line, none⟩⟩) failure) :
      Refuses config file t failure
  | declaration {seat : Place} {seed : SeedTable} {pairs : List (Text × Expr)} {before after : List Stmt}
      {s : Stmt} {ds : List Declaration} {failure : Failure}
      (hseat : IsSeat config.seedTable t seat) (hseed : seat.seed? config.seedTable t = some seed)
      (hpairs : List.Forall₂ Registry.IsLiteral seed.entries pairs)
      (hsplit : t.declarations config.declarationName = before ++ s :: after)
      (hbefore : Sound config (pairs.map (·.1)) before ds)
      (h : Faulty config file (pairs.map (·.1)) ds s failure) :
      Refuses config file t failure

variable {source : String} {t : Tree}

/-- The registry that a pass starts with holds the pairs at the seat of the seed table. -/
theorem locate_eq_ok_iff_seat (file : Option String) {r : Registry} {seat : Place} :
    Registry.locate config.seedTable file t = .ok (r, seat) ↔
    ∃ seed pairs, IsSeat config.seedTable t seat ∧ seat.seed? config.seedTable t = some seed ∧
      List.Forall₂ Registry.IsLiteral seed.entries pairs ∧ Registry.start (.ofPairs pairs) = r := by
  simp only [Registry.locate_eq_ok_iff, Tree.seat?_eq_some_iff, Registry.literalPairs_eq_some_iff, and_assoc]

theorem isDeclaration_of_mem_declarations (name : String) (t : Tree) :
    ∀ s ∈ t.declarations name, s.isDeclaration name = true := fun _ hs => (List.mem_filter.1 hs).2

/-- A pass comes to its end just if the source is accepted. -/
theorem exists_run_iff_accepts {ds : List Declaration} :
    (∃ r, (run config file source t).result = .ok r ∧ r.added.map (·.declaration) = ds) ↔
      ∃ seed pairs, Accepts config t seed pairs ds := by
  constructor
  · rintro ⟨r, hr, hds⟩
    obtain ⟨start, seat, hstart, hprogress⟩ := (exists_run_iff source).1 ⟨r, hr, rfl⟩
    obtain ⟨seed, pairs, hseat, hseed, hpairs, rfl⟩ := (locate_eq_ok_iff_seat file).1 hstart
    obtain ⟨cs, -, heq, -⟩ := added_of_enlistAll (w := .start pairs) (Registry.distinct_ofPairs pairs) hprogress
    have hadded : cs = r.added := congrArg Progress.added heq
    rw [← heq] at hprogress
    exact ⟨seed, pairs, ⟨seat, hseat, hseed⟩, hpairs,
      (exists_enlistAll_iff file (isDeclaration_of_mem_declarations _ t)).1 ⟨cs, hprogress, hadded ▸ hds⟩⟩
  · rintro ⟨seed, pairs, ⟨seat, hseat, hseed⟩, hpairs, hsound⟩
    obtain ⟨cs, hcs, rfl⟩ :=
      (exists_enlistAll_iff file (isDeclaration_of_mem_declarations _ t)).2 hsound
    have hstart := (locate_eq_ok_iff_seat file).2 ⟨seed, pairs, hseat, hseed, hpairs, rfl⟩
    obtain ⟨r, hr, hprogress⟩ := (exists_run_iff source).2 ⟨_, seat, hstart, hcs⟩
    exact ⟨r, hr, congrArg (fun w : Progress => w.added.map (·.declaration)) hprogress⟩

/-- A pass fails just for what the source is refused for. -/
theorem run_eq_error_iff_refuses {f : Failure} :
    (run config file source t).result = .error f ↔ Refuses config file t f := by
  have hdeclarations := isDeclaration_of_mem_declarations config.declarationName t
  rw [run_eq_error_iff, Registry.locate_eq_error_iff]
  constructor
  · rintro ((⟨hnone, rfl⟩ | ⟨seed, hseed, hnone, hf⟩) | ⟨start, seat, hstart, hf⟩)
    · exact .noTable (Tree.seedTable?_eq_none_iff.1 hnone)
    · obtain ⟨seat, hseat, hseed⟩ := Tree.seedTable?_eq_some_iff.1 hseed
      obtain ⟨e, he, hkey⟩ := Registry.literalPairs_eq_none_iff.1 hnone
      exact .badKey hseat hseed he hkey (quoting_iff.2 hf)
    · obtain ⟨seed, pairs, hseat, hseed, hpairs, rfl⟩ := (locate_eq_ok_iff_seat file).1 hstart
      obtain ⟨before, s, after, w, hsplit, hbefore, hs⟩ := enlistAll_eq_error_iff.1 hf
      rw [hsplit] at hdeclarations
      obtain ⟨cs, -, rfl, -⟩ := added_of_enlistAll (w := .start pairs) (Registry.distinct_ofPairs pairs) hbefore
      have hsound := (exists_enlistAll_iff file fun s' hs' => hdeclarations s' (List.mem_append_left _ hs')).1
        ⟨cs, hbefore, rfl⟩
      have hfaulty := (enlist_eq_error_iff_faulty (hdeclarations s (by simp))).1 hs
      exact .declaration hseat hseed hpairs hsplit hsound hfaulty
  · intro h
    cases h with
    | noTable h => exact .inl (.inl ⟨Tree.seedTable?_eq_none_iff.2 h, rfl⟩)
    | badKey hseat hseed he hkey h =>
      exact .inl (.inr ⟨_, Tree.seedTable?_eq_some_iff.2 ⟨_, hseat, hseed⟩,
        Registry.literalPairs_eq_none_iff.2 ⟨_, he, hkey⟩, quoting_iff.1 h⟩)
    | declaration hseat hseed hpairs hsplit hsound hfaulty =>
      rw [hsplit] at hdeclarations
      obtain ⟨cs, hcs, rfl⟩ := (exists_enlistAll_iff file
        fun s' hs' => hdeclarations s' (List.mem_append_left _ hs')).2 hsound
      have hs := (enlist_eq_error_iff_faulty (hdeclarations _ (by simp))).2 hfaulty
      exact .inr ⟨_, _, (locate_eq_ok_iff_seat file).2 ⟨_, _, hseat, hseed, hpairs, rfl⟩,
        enlistAll_eq_error_iff.2 ⟨_, _, _, _, hsplit, hcs, hs⟩⟩

end Pass

/-- A pass over a source comes to its end if the source is accepted, and fails for what it is refused for, whatever
is wrong further on in the tree. A source that is accepted is compiled unless its rewritten tree has no text. In what
is read of a text the first declarations of the tree are those that begin first, if no comment moves a statement. -/
theorem compile_verdict (s : Source) (config : Config) :
    ((∃ r, (Pass.run config s.file s.title s.tree).result = .ok r) ↔
      ∃ seed pairs ds, Pass.Accepts config s.tree seed pairs ds) ∧
    (∀ text, (s.compile config).result = .ok text ↔
      ∃ r, (Pass.run config s.file s.title s.tree).result = .ok r ∧ r.tree.print = .ok text) ∧
    (∀ failure, (s.compile config).result = .error failure ↔
      Pass.Refuses config s.file s.tree failure ∨
      ∃ r fault, (Pass.run config s.file s.title s.tree).result = .ok r ∧ r.tree.print = .error fault ∧
        .unprintable fault = failure) ∧
    (Tree.read s.code = .ok s.tree → s.IsSteady → s.tree.InPlace config.declarationName) := by
  refine ⟨?_, fun text => Source.compile_eq_ok_iff, fun failure => ?_,
    fun hread hsteady => Tree.inPlace_read hread hsteady _⟩
  · constructor
    · rintro ⟨r, hr⟩
      obtain ⟨seed, pairs, h⟩ := Pass.exists_run_iff_accepts.1 ⟨r, hr, rfl⟩
      exact ⟨seed, pairs, _, h⟩
    · rintro ⟨seed, pairs, ds, h⟩
      obtain ⟨r, hr, -⟩ := Pass.exists_run_iff_accepts.2 ⟨seed, pairs, h⟩
      exact ⟨r, hr⟩
  · rw [Source.compile_eq_error_iff, Pass.run_eq_error_iff_refuses]

namespace Sample

/-- A source whose second declaration repeats a tag of the seed, in front of one that lacks a constructor. -/
def repeating : Source :=
  ⟨"<string>", none, "A_TO_B = \x7b'A': f\x7d\nmap('B', C)\nmap('A', D); map('E')\n",
    [.simple ⟨1, 0, 1, 17⟩ (.assign [.name "A_TO_B"] (.dict [.pair (.string "A") (.name "f")]) ⟨1, 9⟩),
      .simple ⟨2, 0, 2, 11⟩ (.expr (.call (.name "map") [.string "B", .name "C"] [])),
      .simple ⟨3, 0, 3, 11⟩ (.expr (.call (.name "map") [.string "A", .name "D"] [])),
      .simple ⟨3, 13, 3, 21⟩ (.expr (.call (.name "map") [.string "E"] []))], false⟩

theorem comments_repeating : readComments repeating.code.toList = .ok [] := by decide +kernel

theorem read_repeating : Tree.read repeating.code = .ok repeating.tree := by
  refine Tree.read_eq_ok_iff.2 ⟨?_, repeating.tree, [], ?_, comments_repeating, Comment.place_nil _ _⟩ <;>
    decide +kernel

theorem isSteady_repeating : repeating.IsSteady := by
  intro bare cs rs _ hcs hne _
  cases comments_repeating.symm.trans hcs
  exact absurd rfl hne

theorem compile_repeating : (repeating.compile {}).result = .error (.rejected
    ⟨.duplicate (.ofString "A tag") (.ofString "A"), ⟨none, some 3, some 0⟩⟩) := rfl

end Sample

/-- What a source is refused for that has two declarations with a fault on one line. -/
theorem compile_verdict_sample :
    Tree.read Sample.repeating.code = .ok Sample.repeating.tree ∧ Sample.repeating.IsSteady ∧
    Sample.repeating.tree.InPlace "map" ∧
    Pass.Refuses {} none Sample.repeating.tree (.rejected
      ⟨.duplicate (.ofString "A tag") (.ofString "A"), ⟨none, some 3, some 0⟩⟩) := by
  obtain ⟨-, -, hfailure, hplace⟩ := compile_verdict Sample.repeating {}
  refine ⟨Sample.read_repeating, Sample.isSteady_repeating,
    hplace Sample.read_repeating Sample.isSteady_repeating, ?_⟩
  rcases (hfailure _).1 Sample.compile_repeating with hrefuses | ⟨r, fault, -, -, hfault⟩
  · exact hrefuses
  · cases hfault

namespace Sample

/-- A source whose one declaration lacks a constructor. Its tag is an interpolated string with a control
character in the braces, where it can only be written with a backslash. -/
def unquotable : Source :=
  ⟨"<string>", none, "A_TO_B = {}\nmap(f\"\x7b'\x01'\x7d\")\n",
    [.simple ⟨1, 0, 1, 11⟩ (.assign [.name "A_TO_B"] (.dict []) ⟨1, 9⟩), .simple ⟨2, 0, 2, 13⟩
      (.expr (.call (.name "map") [.interpolated [.value (.string "\x01") none]] []))], false⟩

/-- A source without declarations that assigns such a string. -/
def unwritable : Source :=
  ⟨"<string>", none, "A_TO_B = {}\nx = f\"\x7b'\x01'\x7d\"\n",
    [.simple ⟨1, 0, 1, 11⟩ (.assign [.name "A_TO_B"] (.dict []) ⟨1, 9⟩), .simple ⟨2, 0, 2, 12⟩
      (.assign [.name "x"] (.interpolated [.value (.string "\x01") none]) ⟨2, 4⟩)], false⟩

set_option maxRecDepth 2000 in
theorem read_unquotable : Tree.read unquotable.code = .ok unquotable.tree := by
  refine Tree.read_eq_ok_iff.2 ⟨?_, unquotable.tree, [], ?_, ?_, Comment.place_nil _ _⟩ <;> decide +kernel

set_option maxRecDepth 2000 in
theorem read_unwritable : Tree.read unwritable.code = .ok unwritable.tree := by
  refine Tree.read_eq_ok_iff.2 ⟨?_, unwritable.tree, [], ?_, ?_, Comment.place_nil _ _⟩ <;> decide +kernel

end Sample

/-- Without a text of its call a declaration is not refused for its form, and without a text of its tree a source is
not compiled though nothing is wrong with it. -/
theorem compile_unprintable :
    Tree.read Sample.unquotable.code = .ok Sample.unquotable.tree ∧
    (Sample.unquotable.compile {}).result = .error (.unprintable .backslash) ∧
    Tree.read Sample.unwritable.code = .ok Sample.unwritable.tree ∧
    (Sample.unwritable.compile {}).result = .error (.unprintable .backslash) ∧
    Pass.Accepts {} Sample.unwritable.tree ⟨[], ⟨1, 9⟩⟩ [] [] := by
  refine ⟨Sample.read_unquotable, rfl, Sample.read_unwritable, rfl, ?_, .nil, .nil, List.nodup_nil, by simp,
    List.nodup_nil⟩
  exact Tree.seedTable?_eq_some_iff.1 rfl

end Crosswalk

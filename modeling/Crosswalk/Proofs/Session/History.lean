import Crosswalk.Proofs.Registry

/-!
# What a session has come to

However the requests of a session follow one another, the tables of the registry have grown by the conversions that
were taken up, in their order: `registry_run`. All else that can be asked of it at any point follows from that and
from the tags and the constructors being distinct, and is gathered in `Standing`.
-/

namespace Crosswalk
namespace Session

/-- The conversions that were taken up: those that were to be added and were not refused. -/
def taken (requests : List Request) (answers : List Answer) : List Conversion :=
  (requests.zip answers).filterMap fun
    | (.add c, .done) => some c
    | _ => none

variable {seat : Place} {s : Session}

/-! ## One request -/

/-- A request to add is granted, or refused for the tag, or refused for the constructor. -/
theorem step_add (seat : Place) (s : Session) (c : Conversion) :
    (c.declaration.tag ∈ s.registry.aToB.keys ∧
      s.step seat (.add c) = (.refused (.duplicate (.ofString "A tag") c.declaration.tag), s)) ∨
    (c.declaration.tag ∉ s.registry.aToB.keys ∧
      c.declaration.constructor.text ∈ s.registry.bToA.keys ∧
      s.step seat (.add c) = (.refused (.duplicate (.ofString "B constructor")
        (.ofString c.declaration.constructor.text)), s)) ∨
    (c.declaration.tag ∉ s.registry.aToB.keys ∧
      c.declaration.constructor.text ∉ s.registry.bToA.keys ∧
      s.step seat (.add c) = (.done, { s with registry := s.registry.extend [c] })) := by
  rw [step]
  by_cases htag : c.declaration.tag ∈ s.registry.aToB.keys
  · rw [Registry.add_eq_error_iff.2 (.inl ⟨htag, rfl⟩)]
    exact .inl ⟨htag, rfl⟩
  · by_cases hconstructor : c.declaration.constructor.text ∈ s.registry.bToA.keys
    · rw [Registry.add_eq_error_iff.2 (.inr ⟨htag, hconstructor, rfl⟩)]
      exact .inr (.inl ⟨htag, hconstructor, rfl⟩)
    · rw [Registry.add_eq_ok_iff.2 ⟨htag, hconstructor, rfl⟩]
      exact .inr (.inr ⟨htag, hconstructor, rfl⟩)

theorem add_done_iff (c : Conversion) : (s.step seat (.add c)).1 = .done ↔
    c.declaration.tag ∉ s.registry.aToB.keys ∧ c.declaration.constructor.text ∉ s.registry.bToA.keys := by
  rcases s.step_add seat c with ⟨htag, h⟩ | ⟨htag, hconstructor, h⟩ | ⟨htag, hconstructor, h⟩ <;> simp [*]

theorem add_refused_tag_iff (c : Conversion) :
    (s.step seat (.add c)).1 = .refused (.duplicate (.ofString "A tag") c.declaration.tag) ↔
      c.declaration.tag ∈ s.registry.aToB.keys := by
  rcases s.step_add seat c with ⟨htag, h⟩ | ⟨htag, hconstructor, h⟩ | ⟨htag, hconstructor, h⟩ <;>
    simp [*, Text.ofString_inj]

theorem add_refused_constructor_iff (c : Conversion) :
    (s.step seat (.add c)).1 = .refused (.duplicate (.ofString "B constructor")
      (.ofString c.declaration.constructor.text)) ↔
      c.declaration.tag ∉ s.registry.aToB.keys ∧ c.declaration.constructor.text ∈ s.registry.bToA.keys := by
  rcases s.step_add seat c with ⟨htag, h⟩ | ⟨htag, hconstructor, h⟩ | ⟨htag, hconstructor, h⟩ <;>
    simp [*, Text.ofString_inj]

/-- A request leaves the registry with what was taken up at its end. -/
theorem registry_step (seat : Place) (s : Session) (q : Request) :
    (s.step seat q).2.registry = s.registry.extend (taken [q] [(s.step seat q).1]) := by
  cases q with
  | add c => rcases s.step_add seat c with ⟨-, h⟩ | ⟨-, -, h⟩ | ⟨-, -, h⟩ <;> rw [h] <;> simp [taken]
  | lookup | lookupB | contains | size | tags | write => simp [step, taken]

/-- A request keeps the tags and the constructors distinct. -/
theorem distinct_step (hs : s.registry.Distinct) (q : Request) :
    (s.step seat q).2.registry.Distinct := by
  cases q with
  | add c =>
    rcases s.step_add seat c with ⟨-, h⟩ | ⟨-, -, h⟩ | ⟨htag, hconstructor, h⟩
    · rw [h]; exact hs
    · rw [h]; exact hs
    · rw [h]; exact hs.add (Registry.add_eq_ok_iff.2 ⟨htag, hconstructor, rfl⟩)
  | lookup | lookupB | contains | size | tags | write => exact hs

/-- A request that fails leaves everything as it was. -/
theorem step_of_isFailure {q : Request} (h : (s.step seat q).1.isFailure = true) :
    (s.step seat q).2 = s := by
  cases q with
  | add c =>
    rcases s.step_add seat c with ⟨-, hstep⟩ | ⟨-, -, hstep⟩ | ⟨-, -, hstep⟩
    · rw [hstep]
    · rw [hstep]
    · exact absurd h (by simp [hstep, Answer.isFailure])
  | write => exact absurd h (by simp [step, Answer.isFailure])
  | lookup | lookupB | contains | size | tags => rfl

/-! ## Requests one after the other -/

theorem run_cons (q : Request) (rest : List Request) :
    s.run seat (q :: rest) = (s.step seat q).2.run seat rest := rfl

theorem run_append (first second : List Request) :
    s.run seat (first ++ second) = (s.run seat first).run seat second :=
  List.foldl_append

theorem taken_cons (q : Request) (rest : List Request) (a : Answer) (as : List Answer) :
    taken (q :: rest) (a :: as) = taken [q] [a] ++ taken rest as := by
  simp only [taken, List.zip_cons_cons, List.zip_nil_right, List.filterMap_cons, List.filterMap_nil]
  split <;> rfl

/-- Requests leave the registry with what was taken up at its end, in the order of the requests. -/
theorem registry_run (seat : Place) (requests : List Request) (s : Session) :
    (s.run seat requests).registry = s.registry.extend (taken requests (s.answers seat requests)) := by
  induction requests generalizing s with
  | nil => simp [run, taken]
  | cons q rest ih =>
    rw [run_cons, ih, registry_step, answers, taken_cons q rest, Registry.extend_append]

theorem distinct_run (seat : Place) (hs : s.registry.Distinct) (requests : List Request) :
    (s.run seat requests).registry.Distinct := by
  induction requests generalizing s with
  | nil => exact hs
  | cons q rest ih => exact ih (distinct_step hs q)

/-- A function that was found is found again, whatever is asked in between. -/
theorem step_run_of_function {q : Request} {f : Expr} (h : (s.step seat q).1 = .function f)
    (requests : List Request) : ((s.run seat requests).step seat q).1 = .function f := by
  have hfound {key : Text} {o : Option Expr} (ho : o.elim (Answer.unknown key) .function = .function f) :
      o = some f := by
    cases o with
    | none => cases ho
    | some g => cases ho; rfl
  cases q with
  | add c => rcases s.step_add seat c with ⟨-, hc⟩ | ⟨-, -, hc⟩ | ⟨-, -, hc⟩ <;> rw [hc] at h <;> cases h
  | lookup tag =>
    show ((s.run seat requests).registry.lookup tag).elim _ _ = _
    rw [registry_run, Registry.lookup_extend_of_some (hfound h)]
    rfl
  | lookupB constructor =>
    show ((s.run seat requests).registry.lookupB constructor).elim _ _ = _
    rw [registry_run, Registry.lookupB_extend_of_some (hfound h)]
    rfl
  | contains | size | tags | write => cases h

/-! ## At any point -/

/-- How a session stands that was started with the pairs of a seed table and has taken up some conversions. -/
structure Standing (seat : Place) (pairs : List (Text × Expr)) (cs : List Conversion) (s : Session) : Prop where
  /-- The tags are the keys of the seed table as they first came, and those that were taken up. -/
  tags : s.registry.aToB.keys = Table.firstKeys pairs ++ cs.map (·.declaration.tag)
  nodup_tags : s.registry.aToB.keys.Nodup
  constructors : s.registry.bToA.keys = cs.map (·.declaration.constructor.text)
  nodup_constructors : s.registry.bToA.keys.Nodup
  length_seed : s.registry.seedSize = (Table.firstKeys pairs).length
  /-- The answers about the tags as a whole. -/
  asked_size : (s.step seat .size).1 = .count (s.registry.seedSize + cs.length)
  asked_tags : (s.step seat .tags).1 = .keys s.registry.aToB.keys
  asked_contains : ∀ tag, ∃ b, (s.step seat (.contains tag)).1 = .isThere b ∧
    (b = true ↔ tag ∈ s.registry.aToB.keys)
  /-- Under a key of the seed table there is the last value that the key has in it. -/
  found_seed : ∀ before key value after, pairs = before ++ (key, value) :: after → key ∉ after.map (·.1) →
    (s.step seat (.lookup key)).1 = .function value
  found_taken : ∀ c ∈ cs, (s.step seat (.lookup c.declaration.tag)).1 = .function c.aToB ∧
    (s.step seat (.lookupB c.declaration.constructor.text)).1 = .function c.bToA
  unknown_iff : ∀ tag, (s.step seat (.lookup tag)).1 = .unknown tag ↔ tag ∉ s.registry.aToB.keys
  unknownB_iff : ∀ constructor, (s.step seat (.lookupB constructor)).1 = .unknown (.ofString constructor) ↔
    constructor ∉ s.registry.bToA.keys
  /-- What was found is found at every later point. -/
  stays : ∀ q f later, (s.step seat q).1 = .function f → ((s.run seat later).step seat q).1 = .function f
  done_iff : ∀ c, (s.step seat (.add c)).1 = .done ↔
    c.declaration.tag ∉ s.registry.aToB.keys ∧ c.declaration.constructor.text ∉ s.registry.bToA.keys
  refused_tag_iff : ∀ c,
    (s.step seat (.add c)).1 = .refused (.duplicate (.ofString "A tag") c.declaration.tag) ↔
      c.declaration.tag ∈ s.registry.aToB.keys
  refused_constructor_iff : ∀ c,
    (s.step seat (.add c)).1 = .refused (.duplicate (.ofString "B constructor")
      (.ofString c.declaration.constructor.text)) ↔
      c.declaration.tag ∉ s.registry.aToB.keys ∧ c.declaration.constructor.text ∈ s.registry.bToA.keys
  /-- A request that fails leaves both tables and the tree as they were. -/
  failed : ∀ q, (s.step seat q).1.isFailure = true → (s.step seat q).2 = s

/-- A session stands as its registry says, if that has grown from the pairs of a seed table by some conversions and
the tags and the constructors in it are distinct. -/
theorem standing_of_distinct {pairs : List (Text × Expr)} {cs : List Conversion} (seat : Place)
    (hr : s.registry = (Registry.start (.ofPairs pairs)).extend cs) (hs : s.registry.Distinct) :
    Standing seat pairs cs s where
  tags := by rw [hr, Registry.keys_aToB_extend, Registry.start, Table.keys_ofPairs]
  nodup_tags := hs.tags
  constructors := by
    rw [hr, Registry.keys_bToA_extend]
    rfl
  nodup_constructors := hs.constructors
  length_seed := by
    rw [hr, ← Table.keys_ofPairs, Table.keys, List.length_map]
    rfl
  asked_size := by
    rw [step, hr, Registry.size_extend]
    rfl
  asked_tags := rfl
  asked_contains tag := by
    refine ⟨(s.registry.lookup tag).isSome, rfl, ?_⟩
    rw [← not_iff_not, Option.not_isSome_iff_eq_none, Registry.lookup, Table.get?_eq_none_iff]
  found_seed before key value after hpairs hkey := by
    rw [step, hr, hpairs, Registry.lookup_extend_start hkey, Option.elim_some]
  found_taken c hc := by
    rw [hr] at hs
    rw [step, step, hr, hs.lookup_extend hc, hs.lookupB_extend hc, Option.elim_some, Option.elim_some]
    exact ⟨rfl, rfl⟩
  unknown_iff tag := by
    rw [step, ← Table.get?_eq_none_iff, ← Registry.lookup]
    cases s.registry.lookup tag <;> simp
  unknownB_iff constructor := by
    rw [step, ← Table.get?_eq_none_iff, ← Registry.lookupB]
    cases s.registry.lookupB constructor <;> simp
  stays q f later h := step_run_of_function h later
  done_iff := add_done_iff
  refused_tag_iff := add_refused_tag_iff
  refused_constructor_iff := add_refused_constructor_iff
  failed q h := step_of_isFailure h

/-- A registry that was started from a seed table stands, after any requests, as the pairs of the seed table and
the conversions that were taken up say. -/
theorem standing_run {seed : SeedTable} {r : Registry} (h : Registry.ofSeed seed = .ok r) (seat : Place)
    (t : Tree) (requests : List Request) :
    ∃ pairs, Registry.literalPairs seed.entries = some pairs ∧
      Standing seat pairs (taken requests (answers seat ⟨r, t⟩ requests)) (run seat ⟨r, t⟩ requests) := by
  obtain ⟨pairs, hpairs, rfl⟩ := Registry.ofSeed_eq_ok_iff.1 h
  exact ⟨pairs, hpairs, standing_of_distinct seat (registry_run seat requests _)
    (distinct_run seat (Registry.distinct_ofPairs pairs) requests)⟩

namespace Sample

/-- A seed table in which a key stands twice. -/
def seed : SeedTable :=
  ⟨[.pair (.string "Old") (.name "f"), .pair (.string "Old") (.name "g")], ⟨1, 9⟩⟩

/-- The tree that assigns the seed table. -/
def tree : Tree := [.simple ⟨1, 0, 1, 29⟩ (.assign [.name "A_TO_B"] (.dict seed.entries) seed.pos)]

/-- The registry that starts from the seed table. -/
def registry : Registry := ⟨[(.ofString "Old", .name "g")], [], 1⟩

/-- The conversion of a declaration without fields. -/
def conversion (tag constructor : String) : Conversion :=
  .ofFields {} ⟨.ofString tag, ⟨constructor, []⟩, none, ⟨2, 0⟩⟩ []

/-- Requests of which two are refused, one for its tag and one for its constructor. -/
def requests : List Request :=
  [.add (conversion "While" "B_While"), .add (conversion "Old" "B_Old"), .write, .lookup (.ofString "Old"),
    .add (conversion "Do" "B_While"), .add (conversion "Do" "B_Do")]

end Sample

/-- Two conversions are taken up beside a seed table whose key stands twice, and two are refused. -/
theorem standing_run_sample : Registry.ofSeed Sample.seed = .ok Sample.registry ∧
    taken Sample.requests (answers (.here 0) ⟨Sample.registry, Sample.tree⟩ Sample.requests) =
      [Sample.conversion "While" "B_While", Sample.conversion "Do" "B_Do"] ∧
    ∃ pairs, Registry.literalPairs Sample.seed.entries = some pairs ∧
      Standing (.here 0) pairs
        (taken Sample.requests (answers (.here 0) ⟨Sample.registry, Sample.tree⟩ Sample.requests))
        (run (.here 0) ⟨Sample.registry, Sample.tree⟩ Sample.requests) :=
  ⟨rfl, rfl, standing_run rfl (.here 0) Sample.tree Sample.requests⟩

end Session
end Crosswalk

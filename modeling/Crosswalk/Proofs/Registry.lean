import Crosswalk.Session
import Crosswalk.Proofs.Declaration
import Crosswalk.Proofs.Table
import Crosswalk.Proofs.Tree.Seat
import Mathlib.Data.List.Forall2

/-!
# Registries

The two tables of a registry only grow at their ends, by rows for conversions whose tag and constructor are new:
`Registry.add_eq_ok_iff`. So no key stands twice in either of them, which is what `Registry.Distinct` says, and the
rows beyond the size of the seed table are those for the conversions, `Registry.newEntries_extend_start`.
-/

namespace Crosswalk

/-- There is a list that is related to another one item by item, if each item is related to something. -/
theorem exists_forall₂_iff {α β : Type} {R : α → β → Prop} {l : List α} :
    (∃ l', List.Forall₂ R l l') ↔ ∀ a ∈ l, ∃ b, R a b := by
  induction l with
  | nil => simp
  | cons a l ih =>
    simp only [List.forall_mem_cons, ← ih, List.forall₂_cons_left_iff]
    constructor
    · rintro ⟨_, b, l', hb, hl', -⟩
      exact ⟨⟨b, hb⟩, l', hl'⟩
    · rintro ⟨⟨b, hb⟩, l', hl'⟩
      exact ⟨b :: l', b, l', hb, hl', rfl⟩

/-- The items of two lists are related by way of something, if the lists are by way of a list. -/
theorem forall₂_exists_iff {α β γ : Type} {R : α → β → Prop} {f : β → γ} {as : List α} {cs : List γ} :
    List.Forall₂ (fun a c => ∃ b, R a b ∧ f b = c) as cs ↔ ∃ bs, List.Forall₂ R as bs ∧ bs.map f = cs := by
  constructor
  · intro h
    induction h with
    | nil => exact ⟨[], .nil, rfl⟩
    | cons hac _ ih =>
      obtain ⟨b, hb, rfl⟩ := hac
      obtain ⟨bs, hbs, rfl⟩ := ih
      exact ⟨b :: bs, .cons hb hbs, rfl⟩
  · rintro ⟨bs, hbs, rfl⟩
    rw [List.forall₂_map_right_iff]
    exact hbs.imp fun a b hb => ⟨b, hb, rfl⟩

/-- What is related to the finds of a search is related to what they are found for. -/
theorem forall₂_filterMap_iff {α β γ : Type} {f : α → Option β} {R : β → γ → Prop} {l : List α}
    {cs : List γ} (hl : ∀ a ∈ l, (f a).isSome) :
    List.Forall₂ R (l.filterMap f) cs ↔ List.Forall₂ (fun a c => ∃ b, f a = some b ∧ R b c) l cs := by
  induction l generalizing cs with
  | nil => simp
  | cons a l ih =>
    obtain ⟨b, hb⟩ := Option.isSome_iff_exists.1 (hl a List.mem_cons_self)
    have hrest {cs : List γ} : List.Forall₂ R (l.filterMap f) cs ↔ _ :=
      ih fun a' ha' => hl a' (List.mem_cons_of_mem a ha')
    rw [List.filterMap_cons_some hb, List.forall₂_cons_left_iff, List.forall₂_cons_left_iff]
    simp [hb, hrest]

namespace Registry

/-- No tag and no constructor stands twice in a registry. -/
structure Distinct (r : Registry) : Prop where
  tags : r.aToB.keys.Nodup
  constructors : r.bToA.keys.Nodup

/-- The registry with rows for some conversions at the ends of both tables. -/
def extend (r : Registry) (cs : List Conversion) : Registry :=
  { r with
    aToB := r.aToB ++ cs.map fun c => (c.declaration.tag, c.aToB)
    bToA := r.bToA ++ cs.map fun c => (c.declaration.constructor.text, c.bToA) }

@[simp] theorem extend_nil (r : Registry) : r.extend [] = r := by
  simp [extend]

theorem extend_append (r : Registry) (cs more : List Conversion) :
    r.extend (cs ++ more) = (r.extend cs).extend more := by
  simp [extend]

theorem keys_aToB_extend (r : Registry) (cs : List Conversion) :
    (r.extend cs).aToB.keys = r.aToB.keys ++ cs.map (·.declaration.tag) := by
  rw [extend, Table.keys, List.map_append, List.map_map]
  rfl

theorem keys_bToA_extend (r : Registry) (cs : List Conversion) :
    (r.extend cs).bToA.keys = r.bToA.keys ++ cs.map (·.declaration.constructor.text) := by
  rw [extend, Table.keys, List.map_append, List.map_map]
  rfl

/-- A conversion is added at the ends of the tables, if its tag and its constructor are new. -/
theorem add_eq_ok_iff {c : Conversion} {r r' : Registry} :
    r.add c = .ok r' ↔ c.declaration.tag ∉ r.aToB.keys ∧
      c.declaration.constructor.text ∉ r.bToA.keys ∧ r.extend [c] = r' := by
  rw [add]
  by_cases htag : c.declaration.tag ∈ r.aToB.keys
  · simp [htag]
  · by_cases hconstructor : c.declaration.constructor.text ∈ r.bToA.keys
    · simp [htag, hconstructor]
    · simp [htag, hconstructor, extend, Table.put_of_not_mem]

/-- What is not added has a tag that is taken, or else a constructor that is. -/
theorem add_eq_error_iff {c : Conversion} {r : Registry} {cause : Cause} :
    r.add c = .error cause ↔
      c.declaration.tag ∈ r.aToB.keys ∧ .duplicate (.ofString "A tag") c.declaration.tag = cause ∨
      c.declaration.tag ∉ r.aToB.keys ∧ c.declaration.constructor.text ∈ r.bToA.keys ∧
        .duplicate (.ofString "B constructor") (.ofString c.declaration.constructor.text) = cause := by
  rw [add]
  by_cases htag : c.declaration.tag ∈ r.aToB.keys
  · simp [htag]
  · by_cases hconstructor : c.declaration.constructor.text ∈ r.bToA.keys
    · simp [htag, hconstructor]
    · simp [htag, hconstructor]

/-- What is added keeps the tags and the constructors distinct. -/
theorem Distinct.add {c : Conversion} {r r' : Registry} (hr : r.Distinct) (h : r.add c = .ok r') :
    r'.Distinct := by
  obtain ⟨htag, hconstructor, rfl⟩ := add_eq_ok_iff.1 h
  constructor
  · have htags := hr.tags.concat htag
    rw [List.concat_eq_append] at htags
    rw [keys_aToB_extend]
    exact htags
  · have hconstructors := hr.constructors.concat hconstructor
    rw [List.concat_eq_append] at hconstructors
    rw [keys_bToA_extend]
    exact hconstructors

/-- A conversion among the rows at the ends of the tables is new to what comes before them. -/
theorem Distinct.add_eq_ok {c : Conversion} {more : List Conversion} {r : Registry}
    (hr : (r.extend (c :: more)).Distinct) : r.add c = .ok (r.extend [c]) := by
  have htags := hr.tags
  have hconstructors := hr.constructors
  rw [keys_aToB_extend] at htags
  rw [keys_bToA_extend] at hconstructors
  exact add_eq_ok_iff.2 ⟨fun hmem => (List.nodup_append.1 htags).2.2 _ hmem _ List.mem_cons_self rfl,
    fun hmem => (List.nodup_append.1 hconstructors).2.2 _ hmem _ List.mem_cons_self rfl, rfl⟩

/-- A registry that starts with pairs has each key once. -/
theorem distinct_ofPairs (pairs : List (Text × Expr)) : (start (.ofPairs pairs)).Distinct where
  tags := Table.nodup_keys_ofPairs pairs
  constructors := List.nodup_nil

/-- A registry starts from a seed table that has literal keys only. -/
theorem ofSeed_eq_ok_iff {seed : SeedTable} {r : Registry} :
    ofSeed seed = .ok r ↔
      ∃ pairs, literalPairs seed.entries = some pairs ∧ start (.ofPairs pairs) = r := by
  rw [ofSeed]
  cases h : literalPairs seed.entries <;> simp

/-- A registry is found in a tree whose seed table has literal keys only, and so is the place of the seed table. -/
theorem locate_eq_ok_iff {name : String} {file : Option String} {t : Tree} {r : Registry} {seat : Place} :
    locate name file t = .ok (r, seat) ↔ ∃ seed pairs, t.seat? name = some (seat, seed) ∧
      literalPairs seed.entries = some pairs ∧ start (.ofPairs pairs) = r := by
  rw [locate]
  cases t.seat? name with
  | none => simp
  | some found =>
    show (ofSeed found.2).map (fun r => (r, found.1)) = _ ↔ _
    rw [map_eq_ok]
    constructor
    · rintro ⟨r', hr', heq⟩
      cases heq
      obtain ⟨pairs, hpairs, hr⟩ := ofSeed_eq_ok_iff.1 hr'
      exact ⟨found.2, pairs, rfl, hpairs, hr⟩
    · rintro ⟨seed, pairs, hfound, hpairs, hr⟩
      cases hfound
      exact ⟨r, ofSeed_eq_ok_iff.2 ⟨pairs, hpairs, hr⟩, rfl⟩

/-- No registry is found in a tree without a seed table, or whose seed table has other keys than literals. -/
theorem locate_eq_error_iff {name : String} {file : Option String} {t : Tree} {f : Failure} :
    locate name file t = .error f ↔
      t.seedTable? name = none ∧ .rejected ⟨.seedTable (.ofString name), ⟨file, none, none⟩⟩ = f ∨
      ∃ seed, t.seedTable? name = some seed ∧ literalPairs seed.entries = none ∧ seedFailure seed = f := by
  rw [locate, Tree.seedTable?]
  cases t.seat? name with
  | none => simp
  | some found =>
    show (ofSeed found.2).map (fun r => (r, found.1)) = .error f ↔ _
    rw [map_eq_error, ofSeed]
    cases h : literalPairs found.2.entries <;> simp [h]

/-! ## Reading entries -/

/-- The entry has a string literal as its key, and the value. -/
def IsLiteral (e : Entry) (p : Text × Expr) : Prop := ∃ isMarked, e = .pair (.constant (.str p.1 isMarked)) p.2

/-- The pairs of entries are read off them one by one. -/
theorem literalPairs_eq_some_iff {entries : List Entry} {pairs : List (Text × Expr)} :
    literalPairs entries = some pairs ↔ List.Forall₂ IsLiteral entries pairs := by
  induction entries generalizing pairs with
  | nil => simp [literalPairs, eq_comm]
  | cons e entries ih =>
    cases e with
    | spread value =>
      refine iff_of_false (by simp [literalPairs]) fun h => ?_
      obtain ⟨isMarked, heq⟩ := (List.forall₂_cons_left_iff.1 h).choose_spec.choose_spec.1
      cases heq
    | pair key value =>
      simp only [literalPairs, bind, Option.bind_eq_some_iff, pure, Option.some.injEq,
        Declaration.literal?_eq_some_iff, ih, List.forall₂_cons_left_iff]
      constructor
      · rintro ⟨tag, ⟨isMarked, rfl⟩, rest, hrest, rfl⟩
        exact ⟨(tag, value), rest, ⟨isMarked, rfl⟩, hrest, rfl⟩
      · rintro ⟨p, rest, ⟨isMarked, heq⟩, hrest, rfl⟩
        cases heq
        exact ⟨p.1, ⟨isMarked, rfl⟩, rest, hrest, rfl⟩

/-- Entries have no pairs if one of them has no string literal as its key. -/
theorem literalPairs_eq_none_iff {entries : List Entry} :
    literalPairs entries = none ↔ ∃ e ∈ entries, ∀ p, ¬ IsLiteral e p := by
  rw [← Option.not_isSome_iff_eq_none, Option.isSome_iff_exists]
  simp only [literalPairs_eq_some_iff, exists_forall₂_iff]
  push Not
  rfl

theorem literalPairs_append {entries more : List Entry} {pairs pairs' : List (Text × Expr)}
    (h : literalPairs entries = some pairs) (h' : literalPairs more = some pairs') :
    literalPairs (entries ++ more) = some (pairs ++ pairs') := by
  induction entries generalizing pairs with
  | nil =>
    cases h
    exact h'
  | cons e entries ih =>
    cases e with
    | spread value => exact absurd h (by simp [literalPairs])
    | pair key value =>
      simp only [literalPairs, bind, Option.bind_eq_some_iff, pure, Option.some.injEq] at h
      obtain ⟨tag, htag, rest, hrest, rfl⟩ := h
      simp [literalPairs, htag, ih hrest]

/-- The entries for functions from A to B read as their rows in the table. -/
theorem literalPairs_newEntries (r : Registry) :
    literalPairs r.newEntries = some (r.aToB.drop r.seedSize) := by
  rw [newEntries]
  induction r.aToB.drop r.seedSize with
  | nil => rfl
  | cons row rows ih => simp [literalPairs, ih]

/-! ## What was added to a seed table -/

variable {pairs : List (Text × Expr)} {r : Registry} {cs : List Conversion}

/-- The rows beyond those that a registry starts with are those for the conversions. -/
theorem drop_aToB_extend_start (seed : Table Text Expr) (cs : List Conversion) :
    ((start seed).extend cs).aToB.drop ((start seed).extend cs).seedSize =
      cs.map fun c => (c.declaration.tag, c.aToB) := by
  simp [start, extend]

theorem newEntries_extend_start (seed : Table Text Expr) (cs : List Conversion) :
    ((start seed).extend cs).newEntries = cs.map fun c => .pair (.str c.declaration.tag) c.aToB := by
  rw [newEntries, drop_aToB_extend_start, List.map_map]
  rfl

/-- The tags that were added to the pairs of a seed table are distinct, and none of them is a key there. -/
theorem Distinct.tags_of_start (hr : ((start (.ofPairs pairs)).extend cs).Distinct) :
    (cs.map (·.declaration.tag)).Nodup ∧ ∀ c ∈ cs, c.declaration.tag ∉ pairs.map (·.1) := by
  have hnodup : ((Table.ofPairs pairs).keys ++ cs.map (·.declaration.tag)).Nodup := by
    have htags := hr.tags
    rw [keys_aToB_extend] at htags
    exact htags
  obtain ⟨-, htags, hdisjoint⟩ := List.nodup_append.1 hnodup
  refine ⟨htags, fun c hc hmem => ?_⟩
  exact hdisjoint _ (Table.mem_keys_ofPairs.2 hmem) _ (List.mem_map_of_mem hc) rfl

theorem Distinct.constructors_of_start (hr : ((start (.ofPairs pairs)).extend cs).Distinct) :
    (cs.map (·.declaration.constructor.text)).Nodup := by
  have hconstructors := hr.constructors
  rw [keys_bToA_extend] at hconstructors
  exact hconstructors

theorem size_extend (r : Registry) (cs : List Conversion) : (r.extend cs).size = r.size + cs.length := by
  simp [size, extend]

theorem size_extend_start (pairs : List (Text × Expr)) (cs : List Conversion) :
    ((start (.ofPairs pairs)).extend cs).size = (pairs.map (·.1)).toFinset.card + cs.length := by
  rw [size_extend, size, start, Table.length_ofPairs]

/-! ## What is looked up -/

/-- The entry of a conversion is found under its tag. -/
theorem Distinct.lookup_extend (hr : (r.extend cs).Distinct) {c : Conversion} (hc : c ∈ cs) :
    (r.extend cs).lookup c.declaration.tag = some c.aToB := by
  rw [lookup, Table.get?_eq_some_iff hr.tags, extend]
  exact List.mem_append_right _ (List.mem_map_of_mem hc)

theorem Distinct.lookupB_extend (hr : (r.extend cs).Distinct) {c : Conversion} (hc : c ∈ cs) :
    (r.extend cs).lookupB c.declaration.constructor.text = some c.bToA := by
  rw [lookupB, Table.get?_eq_some_iff hr.constructors, extend]
  exact List.mem_append_right _ (List.mem_map_of_mem hc)

/-- What is found stays when more is added. -/
theorem lookup_extend_of_some {tag : Text} {f : Expr} (h : r.lookup tag = some f) (more : List Conversion) :
    (r.extend more).lookup tag = some f :=
  Table.get?_append_of_some h _

theorem lookupB_extend_of_some {constructor : String} {f : Expr} (h : r.lookupB constructor = some f)
    (more : List Conversion) : (r.extend more).lookupB constructor = some f :=
  Table.get?_append_of_some h _

/-- Under a key of the seed table the last value is found that the key has there. -/
theorem lookup_extend_start {before after : List (Text × Expr)} {key : Text} {value : Expr}
    (h : key ∉ after.map (·.1)) (cs : List Conversion) :
    ((start (.ofPairs (before ++ (key, value) :: after))).extend cs).lookup key = some value := by
  have hstart : (start (.ofPairs (before ++ (key, value) :: after))).lookup key = some value := Table.get?_ofPairs h
  exact lookup_extend_of_some hstart cs

end Registry

end Crosswalk

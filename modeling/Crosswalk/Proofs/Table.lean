import Crosswalk.Table
import Mathlib.Data.Finset.Card
import Mathlib.Tactic.Common

/-!
# Tables and the lists they come from

A table whose keys are distinct is its list of pairs: a pair is in it just if looking up the key gives the
value, and putting pairs with distinct keys one after the other appends them.
-/

namespace Crosswalk
namespace Table

variable {κ ν : Type} [DecidableEq κ]

theorem mem_of_get? {t : Table κ ν} {key : κ} {value : ν} (h : t.get? key = some value) :
    (key, value) ∈ t := by
  obtain ⟨p, hp, rfl⟩ := Option.map_eq_some_iff.1 h
  have hkey : p.1 = key := by simpa using List.find?_some hp
  have hmem : p ∈ t := List.mem_of_find?_eq_some hp
  rw [← hkey]
  exact hmem

/-- In a table a key has one value only. -/
theorem get?_eq_some_iff {t : Table κ ν} (ht : t.keys.Nodup) {key : κ} {value : ν} :
    t.get? key = some value ↔ (key, value) ∈ t := by
  refine ⟨mem_of_get?, fun hmem => ?_⟩
  induction t with
  | nil => simp at hmem
  | cons p t ih =>
    simp only [keys, List.map_cons, List.nodup_cons] at ht
    rcases List.mem_cons.1 hmem with rfl | hmem
    · simp [get?]
    · have hne : p.1 ≠ key := fun h => ht.1 (h ▸ List.mem_map_of_mem hmem)
      have := ih ht.2 hmem
      simp only [get?] at this ⊢
      rw [List.find?_cons_of_neg (by simpa using hne)]
      exact this

/-- A key that is in a table has a value. -/
theorem exists_get?_of_mem_keys {t : Table κ ν} {key : κ} (h : key ∈ t.keys) :
    ∃ value, t.get? key = some value := by
  obtain ⟨p, hp, hkey⟩ := List.mem_map.1 h
  have hsome : (t.find? fun q => q.1 = key).isSome := by
    rw [List.find?_isSome]
    exact ⟨p, hp, by simpa using hkey⟩
  obtain ⟨q, hq⟩ := Option.isSome_iff_exists.1 hsome
  exact ⟨q.2, by simp [get?, hq]⟩

/-- A new key goes to the end. -/
theorem put_of_not_mem {t : Table κ ν} {key : κ} (h : key ∉ t.keys) (value : ν) :
    put key value t = t ++ [(key, value)] := by
  induction t with
  | nil => rfl
  | cons p t ih =>
    simp only [keys, List.map_cons, List.mem_cons, not_or] at h
    rw [put, if_neg (Ne.symm h.1), ih h.2, List.cons_append]

theorem ofPairs_concat (pairs : List (κ × ν)) (p : κ × ν) :
    ofPairs (pairs ++ [p]) = put p.1 p.2 (ofPairs pairs) := by
  simp [ofPairs]

/-- Pairs with distinct keys are a table as they stand. -/
theorem ofPairs_eq_self {pairs : List (κ × ν)} (h : (pairs.map (·.1)).Nodup) :
    ofPairs pairs = pairs := by
  induction pairs using List.reverseRecOn with
  | nil => rfl
  | append_singleton pairs p ih =>
    rw [List.map_append, List.nodup_append] at h
    have hnew : p.1 ∉ keys pairs := fun hmem => h.2.2 p.1 hmem p.1 (by simp) rfl
    rw [ofPairs_concat, ih h.1, put_of_not_mem hnew]

/-- The keys of a table are those of the pairs it is made of. -/
theorem mem_keys_ofPairs {pairs : List (κ × ν)} {key : κ} :
    key ∈ (ofPairs pairs).keys ↔ key ∈ pairs.map (·.1) := by
  induction pairs using List.reverseRecOn with
  | nil => simp [ofPairs, keys]
  | append_singleton pairs p ih =>
    rw [ofPairs_concat, keys_put]
    split
    · rename_i hp
      simp only [List.map_append, List.mem_append, ← ih]
      constructor
      · exact Or.inl
      · rintro (h | h)
        · exact h
        · simp only [List.map_cons, List.map_nil, List.mem_singleton] at h
          exact h ▸ hp
    · simp [ih]

theorem nodup_keys_ofPairs (pairs : List (κ × ν)) : (ofPairs pairs).keys.Nodup := by
  induction pairs using List.reverseRecOn with
  | nil => simp [ofPairs, keys]
  | append_singleton pairs p ih =>
    rw [ofPairs_concat]
    exact nodup_keys_put ih _ _

/-- The keys of a table are as many as there are distinct ones among the pairs it is made of. -/
theorem length_ofPairs (pairs : List (κ × ν)) :
    (ofPairs pairs).length = (pairs.map (·.1)).toFinset.card := by
  have hset : (ofPairs pairs).keys.toFinset = (pairs.map (·.1)).toFinset := by
    ext key
    simp only [List.mem_toFinset, mem_keys_ofPairs]
  rw [← hset, List.toFinset_card_of_nodup (nodup_keys_ofPairs pairs), keys, List.length_map]

/-- A table has as many keys as there are pairs that it is made of just if no key is repeated. -/
theorem length_ofPairs_eq_iff {pairs : List (κ × ν)} :
    (ofPairs pairs).length = pairs.length ↔ (pairs.map (·.1)).Nodup := by
  have hlength : pairs.length = (pairs.map (·.1)).length := (List.length_map _).symm
  rw [length_ofPairs, hlength]
  exact Multiset.toFinset_card_eq_card_iff_nodup (m := Multiset.ofList (pairs.map (·.1)))

/-- The keys of some pairs, each one where it first comes. -/
def firstKeys (pairs : List (κ × ν)) : List κ := (pairs.map (·.1)).eraseDups

/-- The keys of a table stand in the order in which they first came. -/
theorem keys_ofPairs (pairs : List (κ × ν)) : (ofPairs pairs).keys = firstKeys pairs := by
  unfold firstKeys
  induction pairs using List.reverseRecOn with
  | nil => simp [ofPairs, keys]
  | append_singleton pairs p ih =>
    rw [ofPairs_concat, keys_put, List.map_append, List.eraseDups_append, ih]
    by_cases hp : p.1 ∈ pairs.map (·.1)
    · rw [if_pos (List.mem_eraseDups.2 hp)]
      simp [List.removeAll, hp]
    · rw [if_neg fun hmem => hp (List.mem_eraseDups.1 hmem)]
      simp [List.removeAll, hp, List.eraseDups_cons]

theorem get?_eq_none_iff {t : Table κ ν} {key : κ} : t.get? key = none ↔ key ∉ t.keys := by
  simp only [get?, Option.map_eq_none_iff, List.find?_eq_none, keys, List.mem_map, not_exists, not_and,
    decide_eq_true_eq]

/-- A key that has a value keeps it when pairs are added at the end. -/
theorem get?_append_of_some {t : Table κ ν} {key : κ} {value : ν} (h : t.get? key = some value)
    (more : List (κ × ν)) : get? (t ++ more) key = some value := by
  obtain ⟨p, hp, rfl⟩ := Option.map_eq_some_iff.1 h
  rw [get?, List.find?_append, hp, Option.some_or, Option.map_some]

/-! ## Putting further pairs -/

theorem ofPairs_append (pairs more : List (κ × ν)) :
    ofPairs (pairs ++ more) = more.foldl (fun t p => put p.1 p.2 t) (ofPairs pairs) :=
  List.foldl_append

/-- The last of the values that a key is given counts. -/
theorem get?_ofPairs {before after : List (κ × ν)} {key : κ} {value : ν} (h : key ∉ after.map (·.1)) :
    (ofPairs (before ++ (key, value) :: after)).get? key = some value := by
  induction after using List.reverseRecOn with
  | nil => rw [ofPairs_concat, get?_put, if_pos rfl]
  | append_singleton after p ih =>
    simp only [List.map_append, List.mem_append, not_or] at h
    have hp : key ≠ p.1 := by simpa using h.2
    have hsplit : before ++ (key, value) :: (after ++ [p]) = before ++ (key, value) :: after ++ [p] := by
      simp
    rw [hsplit, ofPairs_concat, get?_put, if_neg hp, ih h.1]

/-- A key that is given the value that it has makes no difference. -/
theorem put_of_mem {t : Table κ ν} (ht : t.keys.Nodup) {key : κ} {value : ν} (h : (key, value) ∈ t) :
    put key value t = t := by
  induction t with
  | nil => exact absurd h List.not_mem_nil
  | cons p t ih =>
    simp only [keys, List.map_cons, List.nodup_cons] at ht
    rw [put]
    rcases List.mem_cons.1 h with rfl | h
    · rw [if_pos rfl]
    · have hne : p.1 ≠ key := fun heq => ht.1 (heq ▸ List.mem_map_of_mem h)
      rw [if_neg hne, ih ht.2 h]

/-- Pairs that are there already make no difference. -/
theorem ofPairs_append_of_subset {pairs more : List (κ × ν)} (h : ∀ p ∈ more, p ∈ ofPairs pairs) :
    ofPairs (pairs ++ more) = ofPairs pairs := by
  rw [ofPairs_append]
  induction more with
  | nil => rfl
  | cons p more ih =>
    rw [List.foldl_cons, put_of_mem (nodup_keys_ofPairs pairs) (h p List.mem_cons_self)]
    exact ih fun q hq => h q (List.mem_cons_of_mem p hq)

/-- Pairs whose keys are new go to the end. -/
theorem ofPairs_append_of_nodup {pairs more : List (κ × ν)} (h : (keys (ofPairs pairs ++ more)).Nodup) :
    ofPairs (pairs ++ more) = ofPairs pairs ++ more := by
  rw [ofPairs_append]
  generalize ofPairs pairs = t at h
  induction more generalizing t with
  | nil => rw [List.foldl_nil, List.append_nil]
  | cons p more ih =>
    have hsplit : t ++ p :: more = t ++ [p] ++ more := by simp
    rw [hsplit] at h ⊢
    have hnew : p.1 ∉ t.keys := by
      simp only [keys, List.map_append, List.nodup_append] at h
      exact fun hmem => h.1.2.2 p.1 hmem p.1 (by simp) rfl
    rw [List.foldl_cons, put_of_not_mem hnew, ih _ h]

end Table
end Crosswalk

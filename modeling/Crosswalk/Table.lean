/-!
# Tables in the order of insertion

A table is a list of keys with their values in which no key stands twice. A key that is put again keeps its
place and takes the new value: `get?_put` and `keys_put`.
-/

namespace Crosswalk

/-- Keys and values in the order in which the keys came. -/
abbrev Table (κ ν : Type) := List (κ × ν)

namespace Table

variable {κ ν : Type} [DecidableEq κ]

/-- The keys in order. -/
def keys (t : Table κ ν) : List κ := t.map (·.1)

/-- The value of a key. -/
def get? (t : Table κ ν) (key : κ) : Option ν := (t.find? fun p => p.1 = key).map (·.2)

/-- Gives a key a value. -/
def put (key : κ) (value : ν) : Table κ ν → Table κ ν
  | [] => [(key, value)]
  | p :: t => if p.1 = key then (key, value) :: t else p :: put key value t

/-- The table of some pairs, later ones put after earlier ones. -/
def ofPairs (pairs : List (κ × ν)) : Table κ ν := pairs.foldl (fun t p => put p.1 p.2 t) []

theorem get?_put (t : Table κ ν) (key : κ) (value : ν) (k : κ) :
    (put key value t).get? k = if k = key then some value else t.get? k := by
  induction t with
  | nil => by_cases h : key = k <;> simp [put, get?, h, eq_comm]
  | cons p t ih =>
    simp only [get?] at ih
    by_cases hp : p.1 = key
    · by_cases h : key = k
      · simp [put, get?, hp, h]
      · simp [put, get?, hp, h, Ne.symm h]
    · by_cases h : p.1 = k
      · have : k ≠ key := fun e => hp (h.trans e)
        simp [put, get?, h, this]
      · simp [put, get?, hp, h, ih]

theorem keys_put (t : Table κ ν) (key : κ) (value : ν) :
    (put key value t).keys = if key ∈ t.keys then t.keys else t.keys ++ [key] := by
  induction t with
  | nil => simp [put, keys]
  | cons p t ih =>
    simp only [keys] at ih
    by_cases hp : p.1 = key
    · simp [put, keys, hp]
    · have : key ≠ p.1 := fun e => hp e.symm
      simp only [put, hp, if_false, keys, List.map_cons, ih, List.mem_cons, this, false_or]
      split <;> simp_all

theorem nodup_keys_put {t : Table κ ν} (h : t.keys.Nodup) (key : κ) (value : ν) :
    (put key value t).keys.Nodup := by
  rw [keys_put]
  split
  · exact h
  · rename_i hk
    exact List.nodup_append.2 ⟨h, by simp, by grind⟩

end Table

end Crosswalk

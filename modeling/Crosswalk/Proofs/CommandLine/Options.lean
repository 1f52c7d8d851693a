import Crosswalk.CommandLine.Options
import Mathlib.Data.List.Basic
import Mathlib.Tactic.Common

/-!
# What the arguments ask for

Once each flag is next to its value, the arguments of a command line are operands, settings and switches in some
order, `items`. They are taken in one after the other. What comes of all of them is said of the items as a whole,
`Asked`: there is one operand, the last value given to a setting counts, and what tells where the result goes is told
by one flag only.
-/

namespace Crosswalk.CommandLine

/-- An argument, or a flag and the argument that is its value. -/
inductive Item
  | operand (text : String)
  | setting (s : Setting) (value : String)
  | switch (s : Switch)

/-- The arguments with each flag next to its value. The separator, and what is written like a flag but is none,
are left out. -/
def items : List Word → List Item
  | [] => []
  | .value v :: rest => .operand v :: items rest
  | .setting s (some v) :: rest => .setting s v :: items rest
  | .setting s none :: .value v :: rest => .setting s v :: items rest
  | .switch s _ none :: rest => .switch s :: items rest
  | _ :: rest => items rest

namespace Item

/-- The operand that an item is. -/
def operand? : Item → Option String
  | .operand text => some text
  | _ => none

/-- The value that an item gives to a setting. -/
def value? (s : Setting) : Item → Option String
  | .setting s' value => if s' = s then some value else none
  | _ => none

/-- Where an item tells the result to go. -/
def sink? : Item → Option Sink
  | .setting .out value => some (.file (.ofString value))
  | .switch .inPlace => some .inPlace
  | .switch .list => some .list
  | _ => none

end Item

/-- The flag that tells the result to go there, if there is one. -/
def Sink.flag? : Sink → Option Flag
  | .output => none
  | .file _ => some (.setting .out)
  | .inPlace => some (.switch .inPlace)
  | .list => some (.switch .list)

/-- The last of the values that are given to a setting. -/
def lastGiven (s : Setting) (given : List Item) : Option String := (given.filterMap (Item.value? s)).getLast?

/-- A configuration with the names that are given in the place of its own. -/
def withGiven (given : List Item) (c : Config) : Config :=
  { c with
    seedTable := (lastGiven .seedTable given).getD c.seedTable
    declarationName := (lastGiven .declaration given).getD c.declarationName
    param := (lastGiven .param given).getD c.param }

theorem withGiven_append (given more : List Item) (c : Config) :
    withGiven (given ++ more) c = withGiven more (withGiven given c) := by
  simp only [withGiven, lastGiven, List.filterMap_append, List.getLast?_append, Option.getD_or]

namespace Progress

/-- Takes in an item. -/
def take (p : Progress) : Item → Option Progress
  | .operand text => some (p.takeValue text)
  | .setting s value => p.takeSetting value s
  | .switch .inPlace => p.setSink .inPlace
  | .switch .list => p.setSink .list
  | .switch .help => none
  | .switch .version => none

/-- What items change that are taken in: the names in the configuration and where the result goes, and they bring
the input if nothing else has. -/
structure Taken (p : Progress) (given : List Item) (p' : Progress) : Prop where
  config : p'.config = withGiven given p.config
  sink : p'.sink = (given.filterMap Item.sink?).getLast?.getD p.sink
  alone : ∀ s ∈ given.filterMap Item.sink?, s.flag? = p'.sink.flag?
  kept : p.sink.flag? = none ∨ p.sink.flag? = p'.sink.flag?
  input : p'.isOverfull = false →
    p.isOverfull = false ∧ p'.input.toList = p.input.toList ++ given.filterMap Item.operand?

variable {p p' p'' : Progress} {o : Options}

theorem flag?_of_sink? {i : Item} {s : Sink} (h : i.sink? = some s) : s.flag? ≠ none := by
  unfold Item.sink? at h
  split at h <;> cases h <;> simp [Sink.flag?]

theorem Taken.append {given more : List Item} (h : p.Taken given p') (h' : p'.Taken more p'') :
    p.Taken (given ++ more) p'' where
  config := by rw [h'.config, h.config, withGiven_append]
  sink := by rw [h'.sink, h.sink, List.filterMap_append, List.getLast?_append, Option.getD_or]
  alone s hs := by
    rw [List.filterMap_append, List.mem_append] at hs
    rcases hs with hs | hs
    · obtain ⟨i, -, hi⟩ := List.mem_filterMap.1 hs
      -- the sink has a flag by now, which then stays
      rcases h'.kept with hnone | hkept
      · rw [← h.alone s hs] at hnone
        exact absurd hnone (flag?_of_sink? hi)
      · rw [h.alone s hs, hkept]
    · exact h'.alone s hs
  kept := by
    rcases h.kept with hnone | hkept
    · exact .inl hnone
    · rw [hkept]
      exact h'.kept
  input hfull := by
    obtain ⟨hfull', hinput'⟩ := h'.input hfull
    obtain ⟨hfull'', hinput⟩ := h.input hfull'
    rw [hinput', hinput, List.append_assoc, List.filterMap_append]
    exact ⟨hfull'', rfl⟩

/-! ## One item -/

end Progress

end Crosswalk.CommandLine

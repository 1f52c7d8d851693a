import Crosswalk.Conversion
import Crosswalk.SeedTable
import Crosswalk.Table

/-!
# The registry

A registry holds the two tables that a compile pass fills: the functions from A to B by tag, which start with
the entries of the seed table, and the functions from B to A by the name of the constructor. Conversions are
only ever added to both tables at once, and one whose tag or constructor is taken is refused.
-/

namespace Crosswalk

/-- The functions from A to B by tag, those from B to A by the name of the constructor, and how many of the former
there were before anything was added. -/
structure Registry where
  aToB : Table Text Expr
  bToA : Table String Expr
  seedSize : Nat

namespace Registry

/-- The registry that starts with some functions from A to B. -/
def start (seed : Table Text Expr) : Registry := ⟨seed, [], seed.length⟩

/-- The number of functions from A to B. -/
def size (r : Registry) : Nat := r.aToB.length

/-- The entries of a dict display whose keys are all string literals. -/
def literalPairs : List Entry → Option (List (Text × Expr))
  | [] => some []
  | .pair key value :: rest => do
    let key ← key.literal?
    return (key, value) :: (← literalPairs rest)
  | .spread _ :: _ => none

/-- The failure to start from a seed table. -/
def seedFailure (seed : SeedTable) : Failure :=
  match (Expr.dict seed.entries).print with
  | .ok text =>
    .rejected ⟨.general (.ofString ("The seed table may only hold string literal keys: " ++ text)),
      ⟨none, some seed.pos.line, none⟩⟩
  | .error fault => .unprintable fault

/-- The registry that starts with the entries of a seed table. Of entries with the same key the last one
counts, in the place of the first. -/
def ofSeed (seed : SeedTable) : Except Failure Registry :=
  match literalPairs seed.entries with
  | some pairs => .ok (start (.ofPairs pairs))
  | none => .error (seedFailure seed)

/-- The registry that starts with the entries of the seed table of a tree, and the place of the seed table. -/
def locate (name : String) (file : Option String) (t : Tree) : Except Failure (Registry × Place) :=
  match t.seat? name with
  | some (seat, seed) => (ofSeed seed).map fun r => (r, seat)
  | none => .error (.rejected ⟨.seedTable (.ofString name), ⟨file, none, none⟩⟩)

/-- Adds a conversion. The tag is looked at before the constructor. -/
def add (c : Conversion) (r : Registry) : Except Cause Registry :=
  if c.declaration.tag ∈ r.aToB.keys then
    .error (.duplicate (.ofString "A tag") c.declaration.tag)
  else if c.declaration.constructor.text ∈ r.bToA.keys then
    .error (.duplicate (.ofString "B constructor") (.ofString c.declaration.constructor.text))
  else .ok { r with
    aToB := r.aToB.put c.declaration.tag c.aToB
    bToA := r.bToA.put c.declaration.constructor.text c.bToA }

/-- The entries for the functions from A to B that were added. -/
def newEntries (r : Registry) : List Entry :=
  (r.aToB.drop r.seedSize).map fun row => .pair (.str row.1) row.2

/-- Writes the functions from A to B that were added into the seed table at a place of a tree. -/
def writeSeed (seat : Place) (t : Tree) (r : Registry) : Tree := seat.modify (Stmt.grow r.newEntries) t

end Registry

end Crosswalk

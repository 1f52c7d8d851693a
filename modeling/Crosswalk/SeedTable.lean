import Crosswalk.Declaration
import Crosswalk.Syntax.Place
import Crosswalk.Syntax.Walk

/-!
# The seed table

The generated functions go into a dict display that the source assigns to a name. It is searched for level by
level, so an outer assignment wins over an inner one, and among those of a level the first one wins. `Tree.seat?`
finds it together with its place, at which `Stmt.grow` adds entries to it later on.
-/

namespace Crosswalk

/-- A dict display that is assigned to a name: its entries and where it begins. -/
structure SeedTable where
  entries : List Entry
  pos : Pos

namespace Simple

/-- The dict display that a statement assigns to the name, by itself or to several targets. -/
def seed? (name : String) : Simple → Option SeedTable
  | .assign targets (.dict entries) pos =>
    if targets.any (·.isName name) then some ⟨entries, pos⟩ else none
  | .annotated target _ _ (some (.dict entries)) pos =>
    if target.isName name then some ⟨entries, pos⟩ else none
  | _ => none

/-- The statement with entries added to the dict display that it assigns. -/
def extend (more : List Entry) : Simple → Simple
  | .assign targets (.dict entries) pos => .assign targets (.dict (entries ++ more)) pos
  | .annotated target isBare note (some (.dict entries)) pos =>
    .annotated target isBare note (some (.dict (entries ++ more))) pos
  | s => s

end Simple

namespace Stmt

/-- The dict display that a statement itself assigns to the name. -/
def seed? (name : String) : Stmt → Option SeedTable
  | .simple _ content => content.seed? name
  | _ => none

/-- Adds entries to the dict display that a statement itself assigns. -/
def grow (more : List Entry) : Stmt → Stmt
  | .simple span content => .simple span (content.extend more)
  | s => s

end Stmt

mutual

/-- The first dict display assigned to the name that is so many levels inside a statement, and its place seen from
the statement's own place. -/
def Stmt.seatAt? (name : String) : Nat → Stmt → Option (Place × SeedTable)
  | 0, .simple _ content => (content.seed? name).map (Prod.mk (.here 0))
  | depth + 1, .block _ _ body handlers orelse final =>
    ((((seatAt? name depth body).map (Prod.map (.inside 0 .body) id)).or
      ((seatAt? name depth handlers).map (Prod.map (.inside 0 .handlers) id))).or
      ((seatAt? name depth orelse).map (Prod.map (.inside 0 .orelse) id))).or
      ((seatAt? name depth final).map (Prod.map (.inside 0 .final) id))
  | _, _ => none

/-- The first dict display assigned to the name that is so many levels inside some statements, and its place. -/
def seatAt? (name : String) (depth : Nat) : List Stmt → Option (Place × SeedTable)
  | [] => none
  | s :: rest => (s.seatAt? name depth).or ((seatAt? name depth rest).map (Prod.map Place.next id))

end

namespace Tree

/-- The outermost dict display that is assigned to the name, the first of those, and its place. -/
def seat? (name : String) (t : Tree) : Option (Place × SeedTable) :=
  (List.range (heightOf t)).findSome? fun depth => seatAt? name depth t

/-- The dict display that `seat?` finds. -/
def seedTable? (name : String) (t : Tree) : Option SeedTable := (t.seat? name).map (·.2)

end Tree

end Crosswalk

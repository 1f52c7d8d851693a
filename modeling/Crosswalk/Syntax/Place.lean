import Crosswalk.Syntax.Stmt

/-!
# Places in a tree

A place leads to a statement: by its index in the source, or by the index of a block, a suite of the block
and a place in that suite. `Place.stmt?` looks up what stands at a place and `Place.modify` changes it.
-/

namespace Crosswalk

/-- The suites of a block. -/
inductive Suite
  | body
  | handlers
  | orelse
  | final
  deriving DecidableEq

namespace Stmt

/-- A suite of a statement. A statement that is no block has empty suites. -/
def suite : Suite → Stmt → List Stmt
  | .body, .block _ _ body _ _ _ => body
  | .handlers, .block _ _ _ handlers _ _ => handlers
  | .orelse, .block _ _ _ _ orelse _ => orelse
  | .final, .block _ _ _ _ _ final => final
  | _, _ => []

/-- Changes a suite of a block. -/
def mapSuite (which : Suite) (f : List Stmt → List Stmt) : Stmt → Stmt
  | .block span head body handlers orelse final =>
    match which with
    | .body => .block span head (f body) handlers orelse final
    | .handlers => .block span head body (f handlers) orelse final
    | .orelse => .block span head body handlers (f orelse) final
    | .final => .block span head body handlers orelse (f final)
  | s => s

end Stmt

/-- A place among statements: that of one of them, or one in a suite of one of them. -/
inductive Place
  | here (index : Nat)
  | inside (index : Nat) (which : Suite) (rest : Place)
  deriving DecidableEq

namespace Place

/-- The same place among statements with one more in front. -/
def next : Place → Place
  | here i => here (i + 1)
  | inside i which rest => inside (i + 1) which rest

/-- The statement at a place. -/
def stmt? : Place → List Stmt → Option Stmt
  | here i, ss => ss[i]?
  | inside i which rest, ss => ss[i]?.bind fun s => rest.stmt? (s.suite which)

/-- Changes the statement at a place. -/
def modify (f : Stmt → Stmt) : Place → List Stmt → List Stmt
  | here i, ss => ss.modify i f
  | inside i which rest, ss => ss.modify i (·.mapSuite which (rest.modify f))

end Place

end Crosswalk

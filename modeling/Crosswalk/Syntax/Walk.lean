import Crosswalk.Syntax.Stmt

/-!
# Walking through a tree

The statements of a tree level by level: first those of the source itself, then those of their suites,
and so on. Within a level they stand in the order of the source.
-/

namespace Crosswalk

/-- The statements one level below a statement. -/
def Stmt.children : Stmt → List Stmt
  | .block _ _ body handlers orelse final => body ++ handlers ++ orelse ++ final
  | _ => []

mutual

/-- The number of levels that a statement spans. -/
def Stmt.height : Stmt → Nat
  | .block _ _ body handlers orelse final =>
    max (max (heightOf body) (heightOf handlers)) (max (heightOf orelse) (heightOf final)) + 1
  | _ => 1

/-- The number of levels that a suite spans. -/
def heightOf : List Stmt → Nat
  | [] => 0
  | s :: rest => max s.height (heightOf rest)

end

namespace Tree

/-- The statements of so many levels, from the given ones down. -/
def levels : Nat → List Stmt → List Stmt
  | 0, _ => []
  | n + 1, ss => ss ++ levels n (ss.flatMap Stmt.children)

/-- All statements of a tree, level by level. -/
def walk (t : Tree) : List Stmt := levels (heightOf t) t

end Tree

end Crosswalk

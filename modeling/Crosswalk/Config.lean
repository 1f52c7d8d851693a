/-!
# Configuration

The names that a compile pass looks for in a source and the names that generated code refers to.
-/

namespace Crosswalk

/-- The names that connect a declaration source, the generated code and what runs it. -/
structure Config where
  /-- What the table that receives the generated functions is assigned to. -/
  seedTable : String := "A_TO_B"
  /-- The function whose calls are declarations. -/
  declarationName : String := "map"
  /-- The parameter of every generated function. -/
  param : String := "node"
  /-- The key under which a record of the A side has its tag. -/
  typeKey : String := "type"
  fromA : String := "from_A"
  toA : String := "to_A"
  fromAList : String := "from_A_list"
  toAList : String := "to_A_list"
  unwrapBlock : String := "unwrap_block"
  rewrapBlock : String := "rewrap_block"
  deriveStart : String := "derive_start"
  deriveEnd : String := "derive_end"
  /-- The function that receives a constructor and the function back to the A side. -/
  registerBToA : String := "register_B_to_A"

end Crosswalk

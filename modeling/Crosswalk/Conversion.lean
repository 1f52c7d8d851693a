import Crosswalk.Config
import Crosswalk.Declaration
import Crosswalk.Mapping.Parse
import Crosswalk.Syntax.Build

/-!
# Conversions

A declaration is compiled to two functions. The one from A to B takes a record and calls the constructor with
the span and the fields by name; fields whose names cannot be written bare follow in a dict. The one from B
to A takes a node and builds a record of the tag and the fields. Each field gives one value to either.
-/

namespace Crosswalk

/-- What a field gives to the function from A to B and to the one from B to A. -/
structure FieldValues where
  aToB : Expr
  bToA : Expr

/-- The values of a field. A block is unwrapped on the way to B and wrapped anew on the way back. -/
def Mapping.Field.values (config : Config) (f : Mapping.Field) : FieldValues :=
  let a := Expr.item (.name config.param) f.aName
  let b := Expr.field (.name config.param) f.bName
  match f.mode with
  | .direct => ⟨a, b⟩
  | .recursive => ⟨.apply config.fromA a, .apply config.toA b⟩
  | .mappedList => ⟨.apply config.fromAList a, .apply config.toAList b⟩
  | .blockBody => ⟨.apply config.unwrapBlock (.apply config.fromA a), .apply config.rewrapBlock b⟩

/-- The two functions of a declaration. -/
structure Conversion where
  declaration : Declaration
  fields : List Mapping.Field
  aToB : Expr
  bToA : Expr
  /-- The function that receives the function from B to A. -/
  register : String

namespace Conversion

/-- The fields that are passed to a constructor by name. -/
def named (config : Config) (fields : List Mapping.Field) : List Keyword :=
  (fields.filter (·.bName.isBareName)).map fun f => .named f.bName.toString (f.values config).aToB

/-- The fields that are passed to a constructor in a dict, if there are any. -/
def spread (config : Config) (fields : List Mapping.Field) : List Keyword :=
  let rest := fields.filter fun f => !f.bName.isBareName
  if rest.isEmpty then []
  else [.spread (.dict (rest.map fun f => .pair (.str f.bName) (f.values config).aToB))]

/-- The start and the end of the span of a node. -/
def span (config : Config) : List Keyword :=
  [.named "start" (.apply config.deriveStart (.name config.param)),
   .named "end" (.apply config.deriveEnd (.name config.param))]

/-- The node that a record becomes. -/
def node (config : Config) (constructor : DottedName) (fields : List Mapping.Field) : Expr :=
  .call constructor.toExpr [] (span config ++ named config fields ++ spread config fields)

/-- The record that a node becomes. -/
def record (config : Config) (tag : Text) (fields : List Mapping.Field) : Expr :=
  .dict (.pair (.string config.typeKey) (.str tag) ::
    fields.map fun f => .pair (.str f.aName) (f.values config).bToA)

/-- The conversion of a declaration whose fields are given. -/
def ofFields (config : Config) (d : Declaration) (fields : List Mapping.Field) : Conversion where
  declaration := d
  fields := fields
  aToB := .function config.param (node config d.constructor fields)
  bToA := .function config.param (record config d.tag fields)
  register := config.registerBToA

/-- Compiles a declaration. -/
def compile (config : Config) (d : Declaration) : Except Cause Conversion :=
  (Mapping.fields d.mapping).map (ofFields config d)

/-- The statement that registers the function from B to A. -/
def registration (c : Conversion) (span : Span) : Stmt :=
  .simple span (.expr (.call (.name c.register) [c.declaration.constructor.toExpr, c.bToA] []))

end Conversion

end Crosswalk

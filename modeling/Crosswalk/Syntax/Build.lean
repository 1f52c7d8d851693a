import Crosswalk.Syntax.Expr
import Crosswalk.Text.Identifier

/-!
# Building expressions

The few forms that generated code is made of: reading an entry of a record, reading a field of an object,
calling a helper, and a function of one parameter.
-/

namespace Crosswalk.Expr

/-- The entry of a record under a key. -/
def item (record : Expr) (key : Text) : Expr := .subscript record (.str key)

/-- The field of an object. A name that cannot be written bare is looked up by `getattr`. -/
def field (object : Expr) (name : Text) : Expr :=
  if name.isBareName then .attribute object name.toString
  else .call (.name "getattr") [object, .str name] []

/-- The call of a helper with one argument. -/
def apply (helper : String) (argument : Expr) : Expr := .call (.name helper) [argument] []

/-- The function of one parameter with the body given. -/
def function (param : String) (body : Expr) : Expr := .lambda [.mk .positional param none none] body

end Crosswalk.Expr

import Crosswalk.Decimal.Binary64
import Crosswalk.Text.Basic

/-!
# Expressions

The expressions of the language in which declaration sources are written. An expression carries no
positions: statements do.
-/

namespace Crosswalk

/-- A literal value. -/
inductive Constant
  | none
  | true
  | false
  | ellipsis
  | int (value : Nat)
  | float (value : Binary64)
  | imaginary (value : Binary64)
  | str (value : Text) (marked : Bool)
  | bytes (value : List UInt8)

/-- Operators in front of one operand. -/
inductive UnaryOp
  | invert
  | not
  | plus
  | minus
  deriving DecidableEq

/-- Arithmetic operators between two operands. -/
inductive BinaryOp
  | add
  | sub
  | mul
  | matMul
  | div
  | mod
  | shiftLeft
  | shiftRight
  | bitOr
  | bitXor
  | bitAnd
  | floorDiv
  | pow
  deriving DecidableEq

/-- Operators that join conditions. -/
inductive BoolOp
  | and
  | or
  deriving DecidableEq

/-- Operators of a comparison chain. -/
inductive CompareOp
  | eq
  | notEq
  | lt
  | le
  | gt
  | ge
  | is
  | isNot
  | in
  | notIn
  deriving DecidableEq

/-- What a comprehension over one element builds. -/
inductive Collection
  | list
  | set
  | generator
  deriving DecidableEq

/-- How an argument reaches a parameter. In a parameter list the kinds stand in this order. -/
inductive ParamKind
  | positionalOnly
  | positional
  | rest
  | keywordOnly
  | keywordRest
  deriving DecidableEq

mutual

/-- An expression. -/
inductive Expr
  | name (id : String)
  | constant (value : Constant)
  | interpolated (pieces : List Piece)
  | unary (op : UnaryOp) (operand : Expr)
  | binary (op : BinaryOp) (left right : Expr)
  | boolean (op : BoolOp) (operands : List Expr)
  | compare (first : Expr) (links : List Comparison)
  | conditional (test body orelse : Expr)
  | named (target : String) (value : Expr)
  | lambda (params : List Param) (body : Expr)
  | await (value : Expr)
  | yield (value : Option Expr)
  | yieldFrom (value : Expr)
  | starred (value : Expr)
  | attribute (value : Expr) (attr : String)
  | subscript (value index : Expr)
  | slice (lower upper step : Option Expr)
  | call (function : Expr) (arguments : List Expr) (keywords : List Keyword)
  | tuple (items : List Expr)
  | list (items : List Expr)
  | set (items : List Expr)
  | dict (entries : List Entry)
  | comprehension (collection : Collection) (element : Expr) (clauses : List Clause)
  | dictComprehension (key value : Expr) (clauses : List Clause)

/-- A link of a comparison chain. -/
inductive Comparison
  | mk (op : CompareOp) (operand : Expr)

/-- An argument after the positional ones: given by name, or a record of such. -/
inductive Keyword
  | named (name : String) (value : Expr)
  | spread (value : Expr)

/-- An item of a dict display: a pair, or a record of pairs. -/
inductive Entry
  | pair (key value : Expr)
  | spread (value : Expr)

/-- A parameter of a function or a lambda. -/
inductive Param
  | mk (kind : ParamKind) (name : String) (note value : Option Expr)

/-- One loop of a comprehension with its conditions. -/
inductive Clause
  | mk (isAsync : Bool) (target source : Expr) (conditions : List Expr)

/-- A piece of an interpolated string: literal text, or a value with its conversion and format. -/
inductive Piece
  | literal (text : Text)
  | value (expr : Expr) (conversion : Option Char)
  | formatted (expr : Expr) (conversion : Option Char) (format : List Piece)

end

namespace Expr

instance : Inhabited Expr := ⟨.constant .none⟩

/-- A string constant for a string. -/
def string (s : String) : Expr := .constant (.str (Text.ofString s) false)

/-- A string constant. -/
def str (t : Text) : Expr := .constant (.str t false)

end Expr

/-- A pattern of a `case`. -/
inductive Pattern
  | value (expr : Expr)
  | singleton (value : Constant)
  | sequence (items : List Pattern)
  | star (name : Option String)
  | mapping (keys : List Expr) (values : List Pattern) (rest : Option String)
  | instance (type : Expr) (positional : List Pattern) (names : List String) (values : List Pattern)
  | wildcard
  | capture (name : String)
  | alias (pattern : Pattern) (name : String)
  | choice (options : List Pattern)

end Crosswalk

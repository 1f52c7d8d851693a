import Crosswalk.Syntax.Expr

/-!
# Binding levels

How tightly each kind of expression binds, and how operators are written. An expression is put into
parentheses where its place asks for a higher level than its own.
-/

namespace Crosswalk

/-- A binding level, from the loosest to the tightest. -/
abbrev Level := Nat

namespace Level

def named : Level := 1
def tuple : Level := 2
def yield : Level := 3
/-- Conditional expressions and lambdas; the level of a place that asks for none in particular. -/
def test : Level := 4
def or : Level := 5
def and : Level := 6
def not : Level := 7
def compare : Level := 8
/-- Alternatives joined by a bar, the loosest of the arithmetic operators. -/
def bitOr : Level := 9
def bitXor : Level := 10
def bitAnd : Level := 11
def shift : Level := 12
def sum : Level := 13
def term : Level := 14
def factor : Level := 15
def power : Level := 16
def await : Level := 17
def atom : Level := 18

/-- The next tighter level. -/
def next (l : Level) : Level := min (l + 1) atom

end Level

namespace UnaryOp

/-- How the operator is written in front of its operand. -/
def text : UnaryOp → String
  | .invert => "~"
  | .not => "not "
  | .plus => "+"
  | .minus => "-"

def level : UnaryOp → Level
  | .not => Level.not
  | _ => Level.factor

end UnaryOp

namespace BinaryOp

def text : BinaryOp → String
  | .add => "+"
  | .sub => "-"
  | .mul => "*"
  | .matMul => "@"
  | .div => "/"
  | .mod => "%"
  | .shiftLeft => "<<"
  | .shiftRight => ">>"
  | .bitOr => "|"
  | .bitXor => "^"
  | .bitAnd => "&"
  | .floorDiv => "//"
  | .pow => "**"

def level : BinaryOp → Level
  | .add | .sub => Level.sum
  | .mul | .matMul | .div | .mod | .floorDiv => Level.term
  | .shiftLeft | .shiftRight => Level.shift
  | .bitOr => Level.bitOr
  | .bitXor => Level.bitXor
  | .bitAnd => Level.bitAnd
  | .pow => Level.power

/-- The level its left operand needs: powers group to the right, the others to the left. -/
def leftLevel (op : BinaryOp) : Level := if op = .pow then Level.next op.level else op.level

/-- The level its right operand needs. -/
def rightLevel (op : BinaryOp) : Level := if op = .pow then op.level else Level.next op.level

end BinaryOp

namespace BoolOp

def text : BoolOp → String
  | .and => "and"
  | .or => "or"

def level : BoolOp → Level
  | .and => Level.and
  | .or => Level.or

end BoolOp

/-- How the operator is written. -/
def CompareOp.text : CompareOp → String
  | .eq => "=="
  | .notEq => "!="
  | .lt => "<"
  | .le => "<="
  | .gt => ">"
  | .ge => ">="
  | .is => "is"
  | .isNot => "is not"
  | .in => "in"
  | .notIn => "not in"

end Crosswalk

import Crosswalk.Error
import Crosswalk.Mapping.Token

/-!
# Reading a mapping

A mapping is a list of fields with commas between them. A field is a word, an operator and a word with no
blank between. `Mapping.parse` reads it in one pass over its tokens; the first token that does not fit
is the error.
-/

namespace Crosswalk

namespace Mapping

/-- How one field of a node is carried across: its names on the two sides and its mode. -/
structure Field where
  aName : Text
  bName : Text
  mode : Mode
  /-- Where the field begins in the mapping. -/
  column : Nat
  deriving DecidableEq

/-- What does not fit. -/
inductive Problem
  | ended (expected : TokenKind)
  | unexpected (expected : TokenKind) (found : Text)
  | spaced (found : Text)
  | noComma (found : Text)
  deriving DecidableEq

/-- The problem in words. -/
def Problem.message : Problem → String
  | .ended expected => "expected " ++ expected.text ++ " but the mapping ended"
  | .unexpected expected found => "expected " ++ expected.text ++ ", found " ++ found.quoted
  | .spaced found => "whitespace is not allowed inside a field mapping, before " ++ found.quoted
  | .noComma found => "expected ',' between field mappings, found " ++ found.quoted

/-- Why a mapping cannot be read. -/
inductive Fault
  | malformed (problem : Problem) (column : Nat)
  | operator (written : Text)
  deriving DecidableEq

/-- The cause of a compile error that a fault in a mapping is. -/
def Fault.cause (spec : Text) : Fault → Cause
  | .malformed problem column =>
    .mapping (.ofString ("Can't understand property map: " ++ problem.message)) spec column
  | .operator written => .operator written

/-- What has been read of the field at hand. -/
inductive Stage
  | nothing
  | first (a : Token)
  | joined (a operator : Token)
  | whole

/-- The kind of token that a field goes on with, and the token that it must follow without a blank. -/
def Stage.expected : Stage → TokenKind × Option Token
  | .nothing => (.identifier, none)
  | .first a => (.operator, some a)
  | .joined _ operator => (.identifier, some operator)
  | .whole => (.comma, none)

/-- What is wrong with a token where the kind given is expected, right after the token given. -/
def problem? (expected : TokenKind × Option Token) (t : Token) : Option Problem :=
  if t.kind ≠ expected.1 then some (.unexpected expected.1 t.text)
  else if expected.2.any fun before => t.isSpaced || t.column != before.stop then some (.spaced t.text)
  else none

/-- Reads the fields from a stage on. The mapping ends at the column `stop`. -/
def parseFrom (stop : Nat) : Stage → List Token → Except Fault (List Field)
  | .whole, [] => .ok []
  | stage, [] => .error (.malformed (.ended stage.expected.1) stop)
  | .whole, t :: ts =>
    if t.kind = .comma then parseFrom stop .nothing ts
    else .error (.malformed (.noComma t.text) t.column)
  | stage, t :: ts =>
    match problem? stage.expected t with
    | some problem => .error (.malformed problem t.column)
    | none =>
      match stage with
      | .joined a operator =>
        match Mode.ofOperator? operator.text with
        | some mode => (⟨a.text, t.text, mode, a.column⟩ :: ·) <$> parseFrom stop .whole ts
        | none => .error (.operator operator.text)
      | .first a => parseFrom stop (.joined a t) ts
      | _ => parseFrom stop (.first t) ts

/-- Reads a mapping. A blank one has no fields. -/
def parse (spec : Text) : Except Fault (List Field) :=
  if spec.isBlank then .ok [] else parseFrom spec.length .nothing (tokens spec)

/-- The fields of a mapping, if there is one. -/
def fields (spec : Option Text) : Except Cause (List Field) :=
  match spec with
  | none => .ok []
  | some spec => (parse spec).mapError (Fault.cause spec)

/-- The mode that an operator stands for, or the cause that there is none. -/
def Mode.ofOperator (written : Text) : Except Cause Mode :=
  match ofOperator? written with
  | some mode => .ok mode
  | none => .error (.operator written)

end Mapping

end Crosswalk

import Crosswalk.Syntax.DottedName
import Crosswalk.Text.Quoted

/-!
# Events

What happens in a compile pass and is worth a line in a log.
-/

namespace Crosswalk

/-- How important a line of a log is, from the least important on. -/
inductive Severity
  | debug
  | info
  | warning
  | error
  deriving DecidableEq

namespace Severity

/-- The place of a severity among the severities. -/
def rank : Severity → Nat
  | .debug => 0
  | .info => 1
  | .warning => 2
  | .error => 3

/-- The name of a severity. -/
def name : Severity → String
  | .debug => "DEBUG"
  | .info => "INFO"
  | .warning => "WARNING"
  | .error => "ERROR"

/-- The severity of a name. -/
def ofName? (name : String) : Option Severity :=
  [debug, info, warning, error].find? fun l => l.name = name

end Severity

/-- A step of a compile pass. -/
inductive Event
  /-- A declaration was compiled. -/
  | compiled (tag : Text) (constructor : DottedName) (fields : Nat)
  /-- Entries were added to the seed table. -/
  | wrote (entries : Nat)
  /-- The pass over a source came to its end, with so many entries in the table of the name given. -/
  | finished (declarations : Nat) (source : String) (entries : Nat) (table : String)
  deriving DecidableEq

namespace Event

/-- The severity that an event is logged with. -/
def severity : Event → Severity
  | .compiled .. | .wrote _ => .debug
  | .finished .. => .info

/-- The event in words. -/
def message : Event → String
  | .compiled tag constructor fields =>
    "Compiled " ++ tag.quoted ++ " <-> " ++ constructor.text ++ " with " ++ toString fields ++ " field(s)"
  | .wrote entries => "Wrote " ++ toString entries ++ " entries into the seed table"
  | .finished declarations source entries table =>
    "Compiled " ++ toString declarations ++ " declaration(s) from " ++ source ++ ", " ++ toString entries ++
      " entries in " ++ table

end Event

end Crosswalk

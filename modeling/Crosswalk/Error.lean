import Crosswalk.Print.Expr

/-!
# Compile errors

A compile error has a cause and, as far as it is known, a place in a source. The place is filled in on the
way out: `CompileError.located` adds what is missing and never changes what is there.
-/

namespace Crosswalk

/-- Why a declaration source is rejected. -/
inductive Cause
  /-- A table that compiled entries cannot be added to. -/
  | general (message : Text)
  /-- A mapping of the wrong form, from the column given on. -/
  | mapping (reason spec : Text) (column : Int)
  /-- An operator that stands for no mode. -/
  | operator (written : Text)
  /-- There is no table to add entries to. -/
  | seedTable (name : Text)
  /-- A key that is taken. -/
  | duplicate (table key : Text)
  /-- A declaration of the wrong form. -/
  | declaration (reason : Text)
  deriving DecidableEq

/-- The cause in words. -/
def Cause.message : Cause → Text
  | .general message => message
  | .mapping reason spec column =>
    reason ++ .ofString (" (column " ++ toString column ++ " of mapping " ++ spec.quoted ++ ")")
  | .operator written => .ofString ("Can't understand operator in field mapping: " ++ written.quoted)
  | .seedTable name =>
    .ofString "Could not find the dispatch table seed: expected an assignment of a dict literal to '" ++
      name ++ .ofString "'"
  | .duplicate table key =>
    .ofString "'" ++ key ++ .ofString "' is already registered in the " ++ table ++ .ofString " table"
  | .declaration reason => reason

/-- Where an error is, as far as it is known. -/
structure Location where
  file : Option String
  line : Option Int
  column : Option Int
  deriving DecidableEq

namespace Location

/-- Nothing known. -/
def unknown : Location := ⟨none, none, none⟩

/-- The parts of the first location, and those of the second that it lacks. -/
def merge (l m : Location) : Location := ⟨l.file.or m.file, l.line.or m.line, l.column.or m.column⟩

/-- The known parts in words. -/
def parts (l : Location) : List String :=
  l.file.toList ++ l.line.toList.map toString ++ l.column.toList.map toString

end Location

/-- A cause and a location. -/
structure CompileError where
  cause : Cause
  location : Location
  deriving DecidableEq

namespace CompileError

/-- An error at a place that is not known. -/
def ofCause (cause : Cause) : CompileError := ⟨cause, .unknown⟩

/-- Fills in what is not known of the location. -/
def located (e : CompileError) (l : Location) : CompileError := { e with location := e.location.merge l }

@[simp] theorem located_ofCause (cause : Cause) (l : Location) : (ofCause cause).located l = ⟨cause, l⟩ := by
  cases l
  rfl

/-- The error in words, after the known parts of its location. -/
def message (e : CompileError) : Text :=
  if e.location.parts.isEmpty then e.cause.message
  else .ofString (":".intercalate e.location.parts ++ ": ") ++ e.cause.message

end CompileError

/-- Why there is no result. -/
inductive Failure
  | rejected (error : CompileError)
  /-- A part of the source that has to be written has no text. -/
  | unprintable (fault : PrintFault)
  /-- A statement that is to be read as a declaration is no call. -/
  | notACall
  deriving DecidableEq

/-- Fills in what is not known of the location of a compile error. -/
def Failure.located (l : Location) : Failure → Failure
  | .rejected e => .rejected (e.located l)
  | f => f

end Crosswalk

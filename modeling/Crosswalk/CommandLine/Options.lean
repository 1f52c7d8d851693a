import Crosswalk.Config
import Crosswalk.Event
import Crosswalk.Files

/-!
# Options

The arguments of the command line. A long flag may be cut short as long as one flag only begins so; its value
follows an equals sign or is the next argument, and that of a short flag may follow at once. After `--` there are
no flags. Arguments are first told apart, then read in their order, so that the first of a request for help, a request
for the version and a mistake decides. An argument is a `String`: arguments that are no UTF-8, and would give lone
surrogates to a path or a name, are left out.
-/

namespace Crosswalk.CommandLine

/-- The flags that stand alone. -/
inductive Switch
  | help
  | inPlace
  | list
  | version
  deriving DecidableEq

/-- The flags that a value belongs to. -/
inductive Setting
  | out
  | seedTable
  | declaration
  | param
  | logLevel
  deriving DecidableEq

/-- The flags. -/
inductive Flag
  | switch (s : Switch)
  | setting (s : Setting)
  deriving DecidableEq

namespace Flag

/-- How the flags are written. -/
def names : List (String × Flag) :=
  [("-h", .switch .help), ("--help", .switch .help), ("-o", .setting .out), ("--out", .setting .out),
   ("--in-place", .switch .inPlace), ("--list", .switch .list), ("--seed-table", .setting .seedTable),
   ("--declaration", .setting .declaration), ("--param", .setting .param),
   ("--log-level", .setting .logLevel), ("--version", .switch .version)]

/-- The flag that is written so. -/
def ofName? (name : String) : Option Flag := (names.find? fun n => n.1 = name).map (·.2)

end Flag

/-- What an argument is. A flag comes with the value that is written in the same argument. -/
inductive Word
  | value (text : String)
  /-- The two dashes after which there are no flags. -/
  | separator
  | switch (s : Switch) (isLong : Bool) (attached : Option String)
  | setting (s : Setting) (attached : Option String)
  /-- Written like a flag, but none. -/
  | unknown

/-- A flag, long or short, with the value that is written in the same argument. -/
def Flag.word (isLong : Bool) (attached : Option String) : Flag → Word
  | .switch s => .switch s isLong attached
  | .setting s => .setting s attached

/-- The parts before and after the first equals sign. -/
def splitAssignment (cs : List Char) : Option (String × String) :=
  match cs.dropWhile (· ≠ '=') with
  | [] => none
  | _ :: value => some (String.ofList (cs.takeWhile (· ≠ '=')), String.ofList value)

/-- A dash and a decimal number. -/
def isNegativeNumber (cs : List Char) : Bool :=
  match cs with
  | '-' :: digits =>
    let fraction := digits.dropWhile Char.isDigit
    if fraction.isEmpty then !digits.isEmpty
    else fraction.head? = some '.' && fraction.length > 1 && fraction.tail.all Char.isDigit
  | _ => false

/-- What an argument that begins with a dash is, if it is not a flag as it stands. There is no answer if several
flags begin so. -/
def dashedWord? (argument : String) : Option Word :=
  let cs := argument.toList
  let isLong := ['-', '-'].isPrefixOf cs
  let assigned := splitAssignment cs
  match assigned.bind fun a => (Flag.ofName? a.1).map fun f => f.word isLong (some a.2) with
  | some word => some word
  | none =>
    if isLong then
      let start := (assigned.map (·.1.toList)).getD cs
      match Flag.names.filter fun n => start.isPrefixOf n.1.toList with
      | [n] => some (n.2.word true (assigned.map (·.2)))
      | [] => some (if cs.contains ' ' then .value argument else .unknown)
      | _ => none
    else
      match Flag.ofName? (String.ofList (cs.take 2)) with
      | some f => some (f.word false (some (String.ofList (cs.drop 2))))
      | none => some (if isNegativeNumber cs || cs.contains ' ' then .value argument else .unknown)

/-- What an argument before the separator is. There is no answer if several flags begin so. -/
def word? (argument : String) : Option Word :=
  if argument.toList.head? ≠ some '-' || argument = "-" then some (.value argument)
  else
    match Flag.ofName? argument with
    | some f => some (f.word (['-', '-'].isPrefixOf argument.toList) none)
    | none => dashedWord? argument

/-- What the arguments are. There is no answer if one is the beginning of several flags. -/
def words? : List String → Option (List Word)
  | [] => some []
  | argument :: rest =>
    if argument = "--" then some (.separator :: rest.map .value)
    else do
      let word ← word? argument
      return word :: (← words? rest)

/-- Where the result goes. -/
inductive Sink
  | output
  | file (path : Path)
  | inPlace
  /-- Nothing is compiled; the declarations are listed. -/
  | list
  deriving DecidableEq

/-- What a run is to do. -/
structure Options where
  input : Path
  sink : Sink
  config : Config
  level : Severity

/-- What the arguments ask for. -/
inductive Request
  | run (options : Options)
  | help
  | version
  | mistake

/-- What has been read of the arguments. -/
structure Progress where
  input : Option String := none
  sink : Sink := .output
  config : Config := {}
  level : Severity := .warning
  /-- There is an argument too many. -/
  isOverfull : Bool := false

namespace Progress

/-- Whether the result may go to a sink: there is one sink, though its path may be given again. -/
def allows (p : Progress) : Sink → Bool
  | .output => true
  | .file _ =>
    match p.sink with
    | .output | .file _ => true
    | .inPlace | .list => false
  | s => p.sink = .output || p.sink = s

/-- Sets the sink, if that is allowed. -/
def setSink (p : Progress) (s : Sink) : Option Progress :=
  if p.allows s then some { p with sink := s } else none

/-- Takes in a setting. -/
def takeSetting (p : Progress) (value : String) : Setting → Option Progress
  | .out => p.setSink (.file (.ofString value))
  | .seedTable => some { p with config := { p.config with seedTable := value } }
  | .declaration => some { p with config := { p.config with declarationName := value } }
  | .param => some { p with config := { p.config with param := value } }
  | .logLevel => (Severity.ofName? value).map fun l => { p with level := l }

/-- Takes in an argument that is no flag: the first one is the input. -/
def takeValue (p : Progress) (v : String) : Progress :=
  if p.input.isNone then { p with input := some v } else { p with isOverfull := true }

/-- What is asked for once all arguments have been read. -/
def finish (p : Progress) : Request :=
  match p.input with
  | some input => if p.isOverfull then .mistake else .run ⟨.ofString input, p.sink, p.config, p.level⟩
  | none => .mistake

end Progress

/-- Whether short flags that are written together after one for help can be read. -/
def isCluster (letters : List Char) (next : List Word) : Bool :=
  match letters with
  | [] => true
  | 'h' :: rest => isCluster rest next
  | ['o'] =>
    match next with
    | .value _ :: _ => true
    | _ => false
  | 'o' :: _ => true
  | _ => false

/-- Reads arguments one after the other. The separator goes with the input next to it. -/
def readWords (p : Progress) : List Word → Request
  | [] => p.finish
  | .value v :: .separator :: rest => readWords (p.takeValue v) rest
  | .separator :: .value v :: rest => readWords (p.takeValue v) rest
  | .value v :: rest => readWords (p.takeValue v) rest
  | .separator :: rest => readWords { p with isOverfull := true } rest
  | .unknown :: rest => readWords { p with isOverfull := true } rest
  | .switch _ isLong (some v) :: rest =>
    if !isLong && v ≠ "" && isCluster v.toList rest then .help else .mistake
  | .switch .help _ none :: _ => .help
  | .switch .version _ none :: _ => .version
  | .switch .inPlace _ none :: rest =>
    match p.setSink .inPlace with
    | some p => readWords p rest
    | none => .mistake
  | .switch .list _ none :: rest =>
    match p.setSink .list with
    | some p => readWords p rest
    | none => .mistake
  | .setting s (some v) :: rest =>
    match p.takeSetting v s with
    | some p => readWords p rest
    | none => .mistake
  | .setting s none :: .value v :: rest =>
    match p.takeSetting v s with
    | some p => readWords p rest
    | none => .mistake
  | .setting _ none :: _ => .mistake

/-- What the arguments ask for. -/
def Request.ofArguments (arguments : List String) : Request :=
  match words? arguments with
  | some words => readWords {} words
  | none => .mistake

end Crosswalk.CommandLine

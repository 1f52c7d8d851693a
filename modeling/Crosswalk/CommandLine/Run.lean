import Crosswalk.CommandLine.Help
import Crosswalk.CommandLine.Options
import Crosswalk.Source
import Crosswalk.Text.Encoding

/-!
# Runs

A run reads the input file and either lists its declarations or compiles it. `Options.report` says what a run shows
and what it writes, given the content of the input file; `run` does so on the files of a working directory. Files are
UTF-8, and the output is in an encoding of its own, so that a run breaks off where it is to show what the encoding does
not have.
-/

namespace Crosswalk.CommandLine

/-- A line of the log. -/
structure LogLine where
  severity : Severity
  message : Text

/-- The line as it is shown. -/
def LogLine.text (l : LogLine) : Text := .ofString (l.severity.name ++ ": ") ++ l.message ++ .ofString "\n"

/-- What a run ends with: its status, what it shows, and the file that it writes. -/
structure Report where
  status : Nat
  output : Text
  log : Text
  written : Option (Path × String)

/-- Why a run breaks off. -/
inductive Crash
  /-- The path of the input is none. -/
  | badPath
  | unreadable (error : ReadError)
  | failed (failure : Failure)
  | unwritten (path : Path) (fault : FileFault)
  /-- A text is not in the encoding of the output. Others have been shown before it. -/
  | unencoded (output : Encoding) (shown : Text) (text : Text)

namespace Crash

/-- The reason in words. -/
def message : Crash → String
  | .badPath => FileFault.nullCharacter.message ⟨0, []⟩
  | .unreadable e => e.message
  | .failed (.rejected e) => e.message.toString
  | .failed (.unprintable fault) => fault.message
  | .failed .notACall => ""
  | .unwritten path fault => fault.message path
  | .unencoded output _ text => output.fault text

/-- What has been shown before. -/
def shown : Crash → Text
  | .unencoded _ shown _ => shown
  | _ => []

end Crash

/-- Shows texts one after the other, after what has been shown already. -/
def emit (output : Encoding) (shown : Text) : List Text → Except Crash Text
  | [] => .ok shown
  | text :: rest =>
    if output.encodes text then emit output (shown ++ text) rest else .error (.unencoded output shown text)

namespace Options

/-- The lines of the log that are shown. -/
def shown (o : Options) (lines : List LogLine) : Text :=
  (lines.filter fun l => o.level.rank ≤ l.severity.rank).flatMap LogLine.text

/-- The report of a run that fails. -/
def failed (o : Options) (events : List LogLine) (message : Text) : Report :=
  ⟨1, [], o.shown (events ++ [⟨.error, message⟩]), none⟩

/-- The report of a run that cannot read its input. -/
def unread (o : Options) (reason : String) : Report :=
  o.failed [] (.ofString ("Could not read " ++ o.input.text ++ ": " ++ reason))

/-- The report of a run whose input holds no source. -/
def loadReport (o : Options) : LoadError → Except Crash Report
  | .file .nullCharacter => .error .badPath
  | .file fault => .ok (o.unread (fault.message o.input))
  | .encoding fault => .ok (o.unread fault.message)
  | .source (.rejected e) => .ok (o.unread e.label)
  | .source e => .error (.unreadable e)

/-- The report of a run that comes to a failure. -/
def failureReport (o : Options) (events : List LogLine) : Failure → Except Crash Report
  | .rejected e => .ok (o.failed events e.message)
  | f => .error (.failed f)

/-- The line that lists a declaration. -/
def listed (d : Declaration) : Text :=
  .ofString (toString d.pos.line ++ ": ") ++ d.tag ++ .ofString (" <-> " ++ d.constructor.text ++ "\n")

/-- The report of a run that compiles a source to the text given. -/
def compiled (output : Encoding) (o : Options) (events : List LogLine) (text : String) : Except Crash Report :=
  let log := o.shown events
  match o.sink with
  | .inPlace => .ok ⟨0, [], log, some (o.input, text ++ "\n")⟩
  | .file path => .ok ⟨0, [], log, some (path, text ++ "\n")⟩
  | _ => (emit output [] [.ofString (text ++ "\n")]).map fun shown => ⟨0, shown, log, none⟩

/-- The line that logs an event. -/
def lineOf (e : Event) : LogLine := ⟨e.severity, .ofString e.message⟩

/-- The report of a run whose input has the content given. -/
def report (output : Encoding) (o : Options) (content : Except FileFault (List UInt8)) : Except Crash Report :=
  match Source.ofContent o.input content with
  | .error e => o.loadReport e
  | .ok source =>
    if o.sink = .list then
      match source.declarations o.config with
      | .ok found => (emit output [] (found.map listed)).map fun shown => ⟨0, shown, [], none⟩
      | .error f => o.failureReport [] f
    else
      let outcome := source.compile o.config
      let events := outcome.events.map lineOf
      match outcome.result with
      | .ok text => o.compiled output events text
      | .error f => o.failureReport events f

end Options

/-- Answers a request, given what the files of a working directory hold. -/
def Request.report (output : Encoding) (read : Path → Except FileFault (List UInt8)) :
    Request → Except Crash Report
  | .run o => o.report output (read o.input)
  | .help => (emit output [] [.ofString helpText]).map fun shown => ⟨0, shown, [], none⟩
  | .version => (emit output [] [.ofString versionText]).map fun shown => ⟨0, shown, [], none⟩
  | .mistake => .ok ⟨2, [], [], none⟩

/-- Runs the command line in a working directory with an output in the encoding given, and gives the files that are
there afterwards. -/
def run (output : Encoding) (files : Files) (arguments : List String) : Except Crash (Report × Files) := do
  let report ← (Request.ofArguments arguments).report output files.read
  match report.written with
  | none => return (report, files)
  | some (path, text) =>
    let files ← (files.write path text.toUTF8.toList).mapError (.unwritten path)
    return (report, files)

end Crosswalk.CommandLine

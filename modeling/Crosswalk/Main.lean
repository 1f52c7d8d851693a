import Crosswalk.CommandLine.Run

/-!
# The program

Reads and writes the files that a run asks for, and shows what it reports.
-/

namespace Crosswalk

/-- Does something with a file on disk. -/
def onDisk {α : Type} (action : IO α) : IO (Except FileFault α) := do
  try
    return .ok (← action)
  catch
    | .noFileOrDirectory .. => return .error .missing
    | .permissionDenied .. => return .error .denied
    | .inappropriateType _ code _ => return .error (if code = 20 then .notAFolder else .folder)
    | e => throw e

/-- Shows why a run breaks off, after what it has shown before. -/
def breakOff (crash : CommandLine.Crash) : IO UInt32 := do
  IO.print crash.shown.toString
  IO.eprintln crash.message
  return 1

/-- Shows the report of a run and writes its file. What UTF-8 does not have is escaped in the log. -/
def deliver (report : CommandLine.Report) : IO UInt32 := do
  IO.print report.output.toString
  IO.eprint (Encoding.utf8.escaped report.log)
  match report.written with
  | none => return report.status.toUInt32
  | some (path, text) =>
    match ← onDisk (IO.FS.writeFile path.text text) with
    | .ok () => return report.status.toUInt32
    | .error fault => breakOff (.unwritten path fault)

/-- Runs the command line on the files of the disk, with an output in UTF-8. -/
def runOnDisk (arguments : List String) : IO UInt32 := do
  let request := CommandLine.Request.ofArguments arguments
  let content ← match request with
    | .run options => onDisk (return (← IO.FS.readBinFile options.input.text).toList)
    | _ => pure (.ok [])
  match request.report .utf8 fun _ => content with
  | .ok report => deliver report
  | .error crash => breakOff crash

end Crosswalk

def main (arguments : List String) : IO UInt32 := Crosswalk.runOnDisk arguments

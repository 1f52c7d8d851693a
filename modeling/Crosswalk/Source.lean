import Crosswalk.Files
import Crosswalk.Pass
import Crosswalk.Reading
import Crosswalk.Text.Utf8

/-!
# Declaration sources

A declaration source is a text with its tree, and what it is called. A pass over it gives the rewritten text.
-/

namespace Crosswalk

/-- A source that has been read. -/
structure Source where
  name : String
  /-- The file that the source comes from. -/
  file : Option String
  code : String
  tree : Tree
  /-- The source is that of a loaded module. -/
  isModule : Bool

/-- Why there is no source in a file. -/
inductive LoadError
  | file (fault : FileFault)
  | encoding (fault : Utf8.Fault)
  | source (error : ReadError)

namespace Source

/-- Reads the source of the code given. -/
def ofString (name : String) (code : String) (file : Option String) : Except ReadError Source :=
  (Tree.read code).map fun tree => ⟨name, file, code, tree, false⟩

/-- What the log calls a text that may come from a file. -/
def nameOf : Option String → String
  | some "" | none => "<string>"
  | some file => file

/-- Reads the source of a text by itself. -/
def ofText (code : String) (file : Option String) : Except ReadError Source :=
  ofString (nameOf file) code file

/-- Reads the source in the content of a file. -/
def ofContent (path : Path) (content : Except FileFault (List UInt8)) : Except LoadError Source := do
  let bytes ← content.mapError .file
  let code ← (Utf8.decode bytes).mapError .encoding
  (ofString path.name (String.ofList (Text.Lines.unified code.toList)) (some path.text)).mapError .source

/-- Reads the source of a module from the content of its file. A mark at the beginning that tells the encoding
is left out, and the last line is ended. -/
def ofModule (name file content : String) : Except ReadError Source :=
  let chars := Text.Lines.unified content.toList
  let chars := if chars.head? = some '\uFEFF' then chars.tail else chars
  let chars := if chars.getLast?.all (· = '\n') then chars else chars ++ ['\n']
  (ofString name (String.ofList chars) (some file)).map fun s => { s with isModule := true }

/-- The declarations of a source by place, without compiling them. -/
def declarations (s : Source) (config : Config) : Except Failure (List Declaration) :=
  Pass.list config s.file s.tree

/-- What the log calls a source: its file, unless that is empty, or its name. -/
def title (s : Source) : String :=
  match s.file with
  | some "" | none => s.name
  | some file => file

/-- The rewritten text of a source. -/
def compile (s : Source) (config : Config) : Outcome String := do
  let result ← Pass.run config s.file s.title s.tree
  .ofExcept (result.tree.print.mapError .unprintable)

end Source

end Crosswalk

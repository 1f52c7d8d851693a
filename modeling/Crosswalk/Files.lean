import Crosswalk.Table
import Crosswalk.Text.Quoted

/-!
# Files

The files below a working directory and the paths that lead to them. A folder is there as soon as a file is in
it. Of what lies outside the working directory only the folders around it are known.
-/

namespace Crosswalk

/-- A path: the slashes that it begins with, at most two, and the names on the way, without empty ones and
single dots. -/
structure Path where
  slashes : Nat
  names : List String
  deriving DecidableEq

namespace Path

/-- The parts between slashes. There is always at least one. -/
def parts : List Char → List (List Char)
  | [] => [[]]
  | c :: cs =>
    if c = '/' then [] :: parts cs
    else
      match parts cs with
      | [] => [[c]]
      | part :: rest => (c :: part) :: rest

/-- The path that is written so. Three or more slashes at its beginning count as one. -/
def ofString (s : String) : Path :=
  let slashes := (s.toList.takeWhile (· = '/')).length
  ⟨if slashes ≤ 2 then slashes else 1,
    ((parts s.toList).filter fun p => p ≠ [] && p ≠ ['.']).map String.ofList⟩

/-- The written form of a path. -/
def text (p : Path) : String :=
  if p.slashes = 0 && p.names.isEmpty then "."
  else String.ofList (List.replicate p.slashes '/') ++ "/".intercalate p.names

/-- The last name on the way, empty if there is none. -/
def name (p : Path) : String := p.names.getLast?.getD ""

end Path

/-- Why a file cannot be read or written. -/
inductive FileFault
  | missing
  | folder
  | notAFolder
  | denied
  /-- The path holds a null character. -/
  | nullCharacter
  deriving DecidableEq

/-- The fault at a path in words. -/
def FileFault.message (path : Path) : FileFault → String
  | .missing => "[Errno 2] No such file or directory: " ++ Text.quotedString path.text
  | .folder => "[Errno 21] Is a directory: " ++ Text.quotedString path.text
  | .notAFolder => "[Errno 20] Not a directory: " ++ Text.quotedString path.text
  | .denied => "[Errno 13] Permission denied: " ++ Text.quotedString path.text
  | .nullCharacter => "embedded null byte"

/-- Files by the names on the way to them. -/
structure Files where
  contents : Table (List String) (List UInt8)

namespace Files

/-- Whether a folder is at the place given. -/
def isFolder (fs : Files) (place : List String) : Bool :=
  place.isEmpty || fs.contents.keys.any fun k => place.isPrefixOf k && place.length < k.length

/-- Follows names from a place on. Two dots lead back. -/
def follow (fs : Files) (place : List String) : List String → Except FileFault (List String)
  | [] => .ok place
  | name :: rest =>
    if fs.isFolder place then
      if name ≠ ".." then fs.follow (place ++ [name]) rest
      else if !place.isEmpty then fs.follow place.dropLast rest
      else .error (if rest.all (· = "..") then .folder else .missing)
    else .error (if (fs.contents.get? place).isSome then .notAFolder else .missing)

/-- The place of a file that a path leads to. There need not be one yet. -/
def locate (fs : Files) (path : Path) : Except FileFault (List String) := do
  if path.names.any fun n => n.toList.contains '\x00' then throw .nullCharacter
  if path.slashes ≠ 0 then throw (if path.names.isEmpty then .folder else .missing)
  let place ← fs.follow [] path.names
  if fs.isFolder place then throw .folder
  return place

/-- The content of a file. -/
def read (fs : Files) (path : Path) : Except FileFault (List UInt8) := do
  let place ← fs.locate path
  match fs.contents.get? place with
  | some content => return content
  | none => throw .missing

/-- Gives a file a content. -/
def write (fs : Files) (path : Path) (content : List UInt8) : Except FileFault Files := do
  let place ← fs.locate path
  return ⟨fs.contents.put place content⟩

end Files

end Crosswalk

import Crosswalk.Text.Ranges
import Crosswalk.Text.CharacterName.Table

/-!
# Characters by name

`CodePoint.ofName?` finds the character that a name stands for. Hangul syllables and ideographs have
names by rule: a syllable is spelled by its parts, an ideograph by its number, both in capitals. All
other names come from a table, for which capital and small letters are alike.
-/

namespace Crosswalk.CharacterName

/-- What is left after the letters of a fixed beginning. -/
def after? (start : String) (name : List Char) : Option (List Char) :=
  if start.toList.isPrefixOf name then some (name.drop start.length) else none

/-- The place of the longest part that the letters begin with, and what is left after it. -/
def longest? (parts : List String) (cs : List Char) : Option (Nat × List Char) :=
  let fitting := parts.zipIdx.filterMap fun p => (after? p.1 cs).map fun rest => (p.2, rest)
  fitting.foldl (fun best next =>
    match best with
    | none => some next
    | some b => if next.2.length < b.2.length then some next else some b) none

/-- How initial consonants, vowels and final consonants are spelled. -/
def initials : List String :=
  ["G", "GG", "N", "D", "DD", "R", "M", "B", "BB", "S", "SS", "", "J", "JJ", "C", "K", "T", "P", "H"]

@[inherit_doc initials] def vowels : List String :=
  ["A", "AE", "YA", "YAE", "EO", "E", "YEO", "YE", "O", "WA", "WAE", "OE", "YO", "U", "WEO", "WE",
    "WI", "YU", "EU", "YI", "I"]

@[inherit_doc initials] def finals : List String :=
  ["", "G", "GG", "GS", "N", "NJ", "NH", "D", "L", "LG", "LM", "LB", "LS", "LT", "LP", "LH", "M",
    "B", "BS", "S", "SS", "NG", "J", "C", "K", "T", "P", "H"]

/-- The syllable that is spelled by its three parts. -/
def syllable? (spelling : List Char) : Option Nat := do
  let (i, rest) ← longest? initials spelling
  let (v, rest) ← longest? vowels rest
  let (f, rest) ← longest? finals rest
  if rest.isEmpty then some (0xAC00 + (i * 21 + v) * 28 + f) else none

/-- The unified ideographs. -/
def unified : List (Nat × Nat) :=
  [(0x3400, 0x4DBF), (0x4E00, 0x9FFF), (0x20000, 0x2A6DF), (0x2A700, 0x2B738), (0x2B740, 0x2B81D),
    (0x2B820, 0x2CEA1), (0x2CEB0, 0x2EBE0), (0x30000, 0x3134A)]

/-- The unified ideograph of four or five capital hexadecimal digits. -/
def unified? (digits : List Char) : Option Nat :=
  let isDigit (c : Char) : Bool := ('0' ≤ c && c ≤ '9') || ('A' ≤ c && c ≤ 'F')
  let n := Text.Ranges.hexNumber digits
  if (digits.length = 4 || digits.length = 5) && digits.all isDigit && Text.Ranges.contains unified n
  then some n else none

/-- The words of an entry: those that it shares with the words before, then its own. -/
def entryWords (before : List (List Char)) (entry : List Char) : List (List Char) :=
  match entry with
  | [] => []
  | count :: own => before.take (count.toNat - '0'.toNat) ++ Text.Ranges.split (· = ' ') own

/-- The place of a name among entries, each of which is a list of names. -/
def place? (name : List Char) (before : List (List Char)) : List (List (List Char)) → Option Nat
  | [] => none
  | [] :: entries => (place? name before entries).map (· + 1)
  | (first :: others) :: entries =>
    if first = ['-'] then (place? name before entries).map (· + 1)
    else
      let words := entryWords before first
      if List.intercalate [' '] words = name || others.contains name then some 0
      else (place? name words entries).map (· + 1)

/-- The entries of a row of the table. -/
def readRow (row : String) : List (List (List Char)) :=
  (Text.Ranges.split (fun c => c = ',' || c = '\n') row.toList).map fun entry =>
    Text.Ranges.split (· = '/') (entry.dropWhile (· = ' '))

/-- The code point of a name in capitals that the table holds. -/
def listed? (name : List Char) : Option Nat :=
  table.findSome? fun row => (place? name [] (readRow row.2)).map (row.1 + ·)

/-- The code point of a name. -/
def find? (name : List Char) : Option Nat :=
  match after? "HANGUL SYLLABLE " name with
  | some spelling => syllable? spelling
  | none =>
    match after? "CJK UNIFIED IDEOGRAPH-" name with
    | some digits => unified? digits
    | none => listed? (name.map Char.toUpper)

end Crosswalk.CharacterName

namespace Crosswalk

/-- The code point that a name stands for. -/
def CodePoint.ofName? (name : List Char) : Option CodePoint :=
  (CharacterName.find? name).bind fun n => if h : n < 0x110000 then some ⟨n, h⟩ else none

end Crosswalk

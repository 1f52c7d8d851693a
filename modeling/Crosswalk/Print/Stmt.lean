import Crosswalk.Print.Expr
import Crosswalk.Syntax.Stmt

/-!
# The text of statements

Every statement starts a line of its own, four blanks deeper for each suite around it. Inline comments
go on with the line before them. A function or a class is set off by an empty line, a docstring is
written in triple quotes, and an `if` that is all there is in an `else` becomes an `elif`.
-/

namespace Crosswalk

mutual

/-- The text of a pattern in a place of the given level. -/
def Pattern.text (place : Level) : Pattern → String
  | .value e => e.printed
  | .singleton c => c.text false
  | .sequence items => "[" ++ joinWith ", " (patternTexts Level.test items) ++ "]"
  | .star name => "*" ++ name.getD "_"
  | .mapping keys values rest =>
    let items := List.zipWith (fun key value => key.printed ++ ": " ++ value) keys
      (patternTexts Level.test values)
    let items := match rest with
      | some name => items ++ ["**" ++ name]
      | none => items
    "\x7b" ++ joinWith ", " items ++ "\x7d"
  | .instance type positional names values =>
    type.text false Level.atom ++ "(" ++
      joinWith ", " (patternTexts Level.test positional ++
        List.zipWith (fun name value => name ++ "=" ++ value) names (patternTexts Level.test values)) ++ ")"
  | .wildcard => "_"
  | .capture name => name
  | .alias pattern name =>
    parenthesized Level.test place (pattern.text Level.bitOr ++ " as " ++ name)
  | .choice options =>
    parenthesized Level.bitOr place (joinWith " | " (patternTexts (Level.next Level.bitOr) options))

/-- The texts of patterns in places of one level. -/
def patternTexts (place : Level) : List Pattern → List String
  | [] => []
  | p :: ps => p.text place :: patternTexts place ps

end

mutual

/-- The first part of a pattern that has no text. -/
def Pattern.fault? : Pattern → Option PrintFault
  | .value e => e.fault?
  | .sequence items => patternsFault? items
  | .mapping keys values _ => (faultEach? keys).or (patternsFault? values)
  | .instance type positional _ values =>
    (type.fault?.or (patternsFault? positional)).or (patternsFault? values)
  | .alias pattern _ => pattern.fault?
  | .choice options => patternsFault? options
  | _ => none

/-- The first fault of some patterns. -/
def patternsFault? : List Pattern → Option PrintFault
  | [] => none
  | p :: ps => p.fault?.or (patternsFault? ps)

end

/-- An imported name. -/
def Alias.text (a : Alias) : String :=
  match a.rename with
  | some name => a.name ++ " as " ++ name
  | none => a.name

/-- A context and what it is bound to. -/
def WithItem.text (i : WithItem) : String := i.context.printed ++ optionText false " as " i.target

namespace Simple

/-- The text of a statement without suites. -/
def text : Simple → String
  | .expr value => value.text false Level.yield
  | .assign targets value _ =>
    String.join ((textEach false Level.tuple targets).map (· ++ " = ")) ++ value.printed
  | .augmented target op value => target.printed ++ " " ++ op.text ++ "= " ++ value.printed
  | .annotated target isBare note value _ =>
    let name := match target with
      | .name id => if isBare then id else "(" ++ id ++ ")"
      | _ => target.printed
    name ++ ": " ++ note.printed ++ optionText false " = " value
  | .ret value => "return" ++ optionText false " " value
  | .raise exception cause => "raise" ++ optionText false " " exception ++ optionText false " from " cause
  | .del targets => "del " ++ joinWith ", " (textEach false Level.test targets)
  | .assert test message => "assert " ++ test.printed ++ optionText false ", " message
  | .imports names => "import " ++ joinWith ", " (names.map Alias.text)
  | .importsFrom level source names =>
    "from " ++ String.ofList (List.replicate level '.') ++ source ++ " import " ++
      joinWith ", " (names.map Alias.text)
  | .global names => "global " ++ joinWith ", " names
  | .nonlocal names => "nonlocal " ++ joinWith ", " names
  | .pass => "pass"
  | .break => "break"
  | .continue => "continue"

/-- The text of a statement that opens a body that may be documented. -/
def docText : Simple → String
  | .expr (.constant (.str t marked)) => (if marked then "u" else "") ++ Text.literal Quotes.multiline t
  | s => s.text

/-- The first part of a statement that has no text. -/
def fault? : Simple → Option PrintFault
  | .expr value => value.fault?
  | .assign targets value _ => (faultEach? targets).or value.fault?
  | .augmented target _ value => target.fault?.or value.fault?
  | .annotated target _ note value _ =>
    (target.fault?.or note.fault?).or (optionFault? value)
  | .ret value => optionFault? value
  | .raise exception cause => (optionFault? exception).or (optionFault? cause)
  | .del targets => faultEach? targets
  | .assert test message => test.fault?.or (optionFault? message)
  | _ => none

end Simple

namespace Head

/-- Whether a body under this head may be documented, and is set off by an empty line. -/
def isDefinition : Head → Bool
  | .function .. | .class .. => true
  | _ => false

/-- Whether the head is that of an `if`. -/
def isIf : Head → Bool
  | .ifThen _ => true
  | _ => false

/-- The decorators in front of the head. -/
def decorators : Head → List Expr
  | .function _ _ ds _ _ => ds
  | .class _ ds _ _ => ds
  | _ => []

/-- The head line, without the colon. -/
def text : Head → String
  | .ifThen test => "if " ++ test.printed
  | .while test => "while " ++ test.printed
  | .for isAsync target source =>
    (if isAsync then "async for " else "for ") ++ target.text false Level.tuple ++ " in " ++ source.printed
  | .with isAsync items =>
    (if isAsync then "async with " else "with ") ++ joinWith ", " (items.map WithItem.text)
  | .function isAsync name _ params returns =>
    (if isAsync then "async def " else "def ") ++ name ++ "(" ++ paramsText (paramTexts false params) ++
      ")" ++ optionText false " -> " returns
  | .class name _ bases keywords =>
    let arguments := textEach false Level.test bases ++ keywordsText false keywords
    "class " ++ name ++ (if arguments.isEmpty then "" else "(" ++ joinWith ", " arguments ++ ")")
  | .try => "try"
  | .except isGroup type name =>
    (if isGroup then "except*" else "except") ++ optionText false " " type ++
      (match name with | some n => " as " ++ n | none => "")
  | .match subject => "match " ++ subject.printed
  | .case pattern guard => "case " ++ pattern.text Level.test ++ optionText false " if " guard

/-- The first part of a head that has no text. -/
def fault? : Head → Option PrintFault
  | .ifThen test => test.fault?
  | .while test => test.fault?
  | .for _ target source => target.fault?.or source.fault?
  | .with _ items =>
    items.foldl (fun fault i => fault.or (i.context.fault?.or (optionFault? i.target))) none
  | .function _ _ decorators params returns =>
    ((faultEach? decorators).or (paramsFault? params)).or (optionFault? returns)
  | .class _ decorators bases keywords =>
    ((faultEach? decorators).or (faultEach? bases)).or (keywordsFault? keywords)
  | .try => none
  | .except _ type _ => optionFault? type
  | .match subject => subject.fault?
  | .case pattern guard => pattern.fault?.or (optionFault? guard)

end Head

/-- The blanks in front of a line. -/
def indentation (depth : Nat) : String := String.ofList (List.replicate (4 * depth) ' ')

/-- Starts a new line, unless nothing has been written. -/
def newLine (isFirst : Bool) : String := if isFirst then "" else "\n"

/-- Lines of one depth. -/
def linesText (depth : Nat) (isFirst : Bool) : List String → String
  | [] => ""
  | l :: ls => newLine isFirst ++ indentation depth ++ l ++ linesText depth false ls

/-- The head of a block with its decorators, up to the colon. -/
def openingText (depth : Nat) (isFirst : Bool) (head : Head) : String :=
  (if head.isDefinition then newLine isFirst else "") ++
    linesText depth isFirst (head.decorators.map (fun d => "@" ++ d.printed) ++ [head.text]) ++ ":"

/-- Whether an `else` suite is written as `elif`: apart from comments in front it is a single `if`. -/
def isElif (orelse : List Stmt) : Bool :=
  match orelse.dropWhile Stmt.isComment with
  | [.block _ (.ifThen _) _ _ _ _] => true
  | _ => false

/-- A comment, at the end of the line or on a line of its own. -/
def Comment.line (depth : Nat) (isFirst : Bool) (c : Comment) : String :=
  if c.isInline then "  " ++ c.text else newLine isFirst ++ indentation depth ++ c.text

mutual

/-- The text of a statement. `isFirst` says that nothing has been written before it, `isDoc` that it
opens a body that may be documented. -/
def Stmt.text (depth : Nat) (isFirst isDoc : Bool) : Stmt → String
  | .comment c => c.line depth isFirst
  | .simple _ s => newLine isFirst ++ indentation depth ++ (if isDoc then s.docText else s.text)
  | .block _ head body handlers orelse final =>
    openingText depth isFirst head ++ suiteText (depth + 1) head.isDefinition body ++
      suiteText depth false handlers ++
      (if orelse.isEmpty then ""
        else if head.isIf && isElif orelse then elifText depth orelse
        else newLine false ++ indentation depth ++ "else:" ++ suiteText (depth + 1) false orelse) ++
      (if final.isEmpty then ""
        else newLine false ++ indentation depth ++ "finally:" ++ suiteText (depth + 1) false final)

/-- The text of a suite. -/
def suiteText (depth : Nat) (isDoc : Bool) : List Stmt → String
  | [] => ""
  | s :: rest => s.text depth false isDoc ++ suiteText depth false rest

/-- The text of an `else` suite that is written as `elif`. -/
def elifText (depth : Nat) : List Stmt → String
  | .comment c :: rest => c.line depth false ++ elifText depth rest
  | .block _ head body _ orelse _ :: _ =>
    newLine false ++ indentation depth ++ "el" ++ head.text ++ ":" ++ suiteText (depth + 1) false body ++
      (if orelse.isEmpty then ""
        else if isElif orelse then elifText depth orelse
        else newLine false ++ indentation depth ++ "else:" ++ suiteText (depth + 1) false orelse)
  | _ => ""

end

mutual

/-- The first part of a statement, in the order of its text, that has no text. -/
def Stmt.fault? : Stmt → Option PrintFault
  | .comment _ => none
  | .simple _ s => s.fault?
  | .block _ head body handlers orelse final =>
    (((head.fault?.or (suiteFault? body)).or (suiteFault? handlers)).or (suiteFault? orelse)).or
      (suiteFault? final)

/-- The first fault of a suite. -/
def suiteFault? : List Stmt → Option PrintFault
  | [] => none
  | s :: rest => s.fault?.or (suiteFault? rest)

end

namespace Tree

/-- The text of a source. It has no line break at its end. -/
def text : Tree → String
  | [] => ""
  | s :: rest => s.text 0 true true ++ suiteText 0 false rest

/-- The text of a source, unless some part of it has none. -/
def print (t : Tree) : Except PrintFault String :=
  match suiteFault? t with
  | some fault => .error fault
  | none => .ok (text t)

end Tree

end Crosswalk

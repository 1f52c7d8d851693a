import Crosswalk.Text.Identifier
import Crosswalk.Text.Normalize
import Crosswalk.Token.Lexer

/-!
# Readers

A reader takes tokens from a row of them and gives what they say; what it leaves is the rest of the row. It
fails at the first token that cannot go on what was read. Where the language has two readings of the same
tokens the second is tried after the first, unless the failure is final.
-/

namespace Crosswalk

/-- Why reading stopped. -/
structure Mismatch where
  error : SyntaxError
  /-- No other reading of the tokens is tried. -/
  isFinal : Bool
  deriving DecidableEq, Repr

/-- The tokens left, and the end of the last one read that is no layout. -/
structure Cursor where
  tokens : List Token
  last : Pos

/-- The tokens are the last ones of a row. -/
def Cursor.IsRestOf (c c₀ : Cursor) : Prop := c.tokens <:+ c₀.tokens

/-- A reader of tokens. The tokens that it leaves are the last ones of those it was given. -/
structure Reader (α : Type) where
  run : (c : Cursor) → Except Mismatch { r : α × Cursor // r.2.IsRestOf c }

namespace Reader

variable {α β : Type}

/-- Reads with one reader and then with one that depends on what was read. -/
@[inline]
def bind (r : Reader α) (f : α → Reader β) : Reader β :=
  ⟨fun c => match r.run c with
    | .error e => .error e
    | .ok ⟨(a, c'), h⟩ => match (f a).run c' with
      | .error e => .error e
      | .ok ⟨r', h'⟩ => .ok ⟨r', h'.trans h⟩⟩

instance : Monad Reader where
  pure a := ⟨fun c => .ok ⟨(a, c), List.suffix_rfl⟩⟩
  bind := bind

/-- Fails. -/
def fail (m : Mismatch) : Reader α := ⟨fun _ => .error m⟩

/-- The tokens left, and where the last one read ended. -/
def cursor : Reader Cursor := ⟨fun c => .ok ⟨(c, c), List.suffix_rfl⟩⟩

/-- What a reader would read, without taking a token. -/
def ahead (r : Reader α) : Reader α := ⟨fun c => (r.run c).map fun p => ⟨(p.1.1, c), List.suffix_rfl⟩⟩

/-- The next token. To look at a faulty one is a final failure. -/
def peek : Reader Token := do
  match (← cursor).tokens with
  | [] => fail ⟨.malformed, true⟩
  | t :: _ =>
    match t.kind with
    | .fault cause => fail ⟨cause.error, true⟩
    | _ => pure t

/-- Whether a token is layout. -/
def isLayout : TokenKind → Bool
  | .newline | .indent | .dedent | .ending => true
  | _ => false

/-- Takes the next token. -/
def advance : Reader Unit :=
  ⟨fun c => match c with
    | ⟨[], last⟩ => .ok ⟨((), ⟨[], last⟩), List.suffix_rfl⟩
    | ⟨t :: rest, last⟩ =>
      .ok ⟨((), ⟨rest, if isLayout t.kind then last else t.stop⟩), List.suffix_cons t rest⟩⟩

/-- Fails because the next token does not fit. One that changes the indentation is an error of its own. -/
def unexpected : Reader α := do
  match (← peek).kind with
  | .indent | .dedent => fail ⟨.indentation, false⟩
  | _ => fail ⟨.malformed, false⟩

/-- Fails whatever else the tokens could be read as. -/
def reject : Reader α := fail ⟨.malformed, true⟩

/-- Tries a second reading of the same tokens. -/
def orElse (first second : Reader α) : Reader α :=
  ⟨fun c => match first.run c with
    | .error e => if e.isFinal then .error e else second.run c
    | ok => ok⟩

/-- Whether a token is the given operator. -/
def isOp (s : String) : TokenKind → Bool
  | .op o => o == s
  | _ => false

/-- Whether a token is the given word. -/
def isWord (s : String) : TokenKind → Bool
  | .word w => w == s
  | _ => false

/-- Whether the next token is the given operator. -/
def atOp (s : String) : Reader Bool := return isOp s (← peek).kind

/-- Whether the next token is the given word. -/
def atWord (s : String) : Reader Bool := return isWord s (← peek).kind

/-- Takes the operator if it comes next. -/
def acceptOp (s : String) : Reader Bool := do
  if ← atOp s then advance; return true else return false

/-- Takes the word if it comes next. -/
def acceptWord (s : String) : Reader Bool := do
  if ← atWord s then advance; return true else return false

/-- Takes the operator, which has to come next. -/
def expectOp (s : String) : Reader Unit := do
  if ← atOp s then advance else unexpected

/-- Takes the word, which has to come next. -/
def expectWord (s : String) : Reader Unit := do
  if ← atWord s then advance else unexpected

/-- A word that may be a name. -/
def nameOf? : TokenKind → Option String
  | .word w => if Text.reservedWords.contains w then none else some (Text.normalize w)
  | _ => none

/-- Takes a name. -/
def name : Reader String := do
  match nameOf? (← peek).kind with
  | some n => advance; return n
  | none => unexpected

/-- Whether a name and then the given operator come next. -/
def atNameThen (s : String) : Reader Bool := do
  match (← cursor).tokens with
  | t :: _ =>
    if (nameOf? t.kind).isSome then
      ahead do
        advance
        atOp s
    else return false
  | [] => return false

/-- Where the next token begins. -/
def here : Reader Pos := return (← peek).start

/-- Where the last token ended. -/
def lastEnd : Reader Pos := return (← cursor).last

/-- The value behind an optional mark. -/
def optional (mark : Reader Bool) (r : Reader α) : Reader (Option α) := do
  if ← mark then return some (← r) else return none

/-- Reads one thing after another as long as there is one, at most `limit` of them. -/
def many (r : Reader (Option α)) (limit : Nat) : Reader (List α) :=
  match limit with
  | 0 => pure []
  | limit + 1 => do
    match ← r with
    | some a => return a :: (← many r limit)
    | none => return []

/-- Items that each follow a comma. A comma that nothing follows is taken too. -/
def moreItems (starts : TokenKind → Bool) (item : Reader α) (limit : Nat) : Reader (List α) :=
  many (do
    if ← acceptOp "," then
      if starts (← peek).kind then return some (← item) else return none
    else return none) limit

/-- Items between commas; the last has none. -/
def separated (item : Reader α) (limit : Nat) : Reader (List α) := do
  let first ← item
  return first :: (← many (optional (acceptOp ",") item) limit)

end Reader

end Crosswalk

import Crosswalk.Text.Blank

/-!
# Tokens of a mapping

A mapping is written as words of ASCII letters, digits, `$` and `_`, with operators and commas between them.
`Mapping.tokens` cuts it up: blanks are dropped, but a token knows whether one stood before it.
-/

namespace Crosswalk.Mapping

/-- How a field is carried across the two representations. -/
inductive Mode
  /-- The value as it is. -/
  | direct
  /-- A node. -/
  | recursive
  /-- A list of nodes. -/
  | mappedList
  /-- A node that is a block on one side and the list of its statements on the other. -/
  | blockBody
  deriving DecidableEq

namespace Mode

/-- The operator that a mode is written with. -/
def operator : Mode → CodePoint
  | .direct => .ofChar '='
  | .recursive => .ofChar '>'
  | .mappedList => .ofChar '@'
  | .blockBody => .ofChar '%'

/-- All modes. -/
def all : List Mode := [.direct, .recursive, .mappedList, .blockBody]

/-- The mode that an operator stands for. -/
def ofOperator? (written : Text) : Option Mode := all.find? fun m => written = [m.operator]

theorem ofOperator?_operator (m : Mode) : ofOperator? [m.operator] = some m := by
  cases m <;> decide

end Mode

/-- May stand in a word. -/
def isWordPart (c : CodePoint) : Bool :=
  (97 ≤ c.val && c.val ≤ 122) || (65 ≤ c.val && c.val ≤ 90) || (48 ≤ c.val && c.val ≤ 57) ||
    c.val == 36 || c.val == 95

/-- What a token is. -/
inductive TokenKind
  | identifier
  | operator
  | comma
  | unknown
  deriving DecidableEq

/-- The kind in words. -/
def TokenKind.text : TokenKind → String
  | .identifier => "identifier"
  | .operator => "operator"
  | .comma => "comma"
  | .unknown => "unrecognized character"

/-- The kind of token that a character begins. -/
def kindOf (c : CodePoint) : TokenKind :=
  if isWordPart c then .identifier
  else if (Mode.ofOperator? [c]).isSome then .operator
  else if c = .ofChar ',' then .comma
  else .unknown

/-- A token and where it stands. -/
structure Token where
  kind : TokenKind
  text : Text
  column : Nat
  /-- A blank stands right before the token. -/
  isSpaced : Bool
  deriving DecidableEq

/-- The column after a token. -/
def Token.stop (t : Token) : Nat := t.column + t.text.length

/-- The tokens from a column on, where `spaced` says whether a blank stands before it. -/
def tokensFrom (column : Nat) (spaced : Bool) (spec : Text) : List Token :=
  match spec with
  | [] => []
  | c :: rest =>
    if c.isBlank then tokensFrom (column + 1) true rest
    else if isWordPart c then
      let word := c :: rest.takeWhile isWordPart
      ⟨.identifier, word, column, spaced⟩ ::
        tokensFrom (column + word.length) false (rest.dropWhile isWordPart)
    else ⟨kindOf c, [c], column, spaced⟩ :: tokensFrom (column + 1) false rest
termination_by spec.length
decreasing_by
  all_goals simp only [List.length_cons]
  · omega
  · exact Nat.lt_succ_of_le (List.dropWhile_suffix isWordPart).sublist.length_le
  · omega

/-- The tokens of a mapping. -/
def tokens (spec : Text) : List Token := tokensFrom 0 false spec

end Crosswalk.Mapping

import Crosswalk.Grammar.Basic

/-!
# Parameter lists

A parameter list is read item by item. Then each parameter gets its kind from where it stands: before a
slash, before a star, or after it.
-/

namespace Crosswalk.Grammar

/-- An item of a parameter list as it is written. -/
inductive ParamItem
  | slash
  | star
  | rest (name : String) (note : Option Expr)
  | keywordRest (name : String) (note : Option Expr)
  | plain (name : String) (note value : Option Expr)

namespace ParamItem

/-- The parameters after the star. A bare star needs one that is given by name. -/
def afterStar : List ParamItem → Option (List Param)
  | [] => some []
  | .plain name note value :: items =>
    (afterStar items).map (.mk .keywordOnly name note value :: ·)
  | [.keywordRest name note] => some [.mk .keywordRest name note none]
  | _ => none

/-- The parameters after the slash, if there is one. Once one has a default value, all have. -/
def afterSlash (needsDefault : Bool) : List ParamItem → Option (List Param)
  | .plain name note value :: items =>
    if needsDefault && value.isNone then none
    else (afterSlash value.isSome items).map (.mk .positional name note value :: ·)
  | .rest name note :: items => (afterStar items).map (.mk .rest name note none :: ·)
  | .star :: .plain name note value :: items => afterStar (.plain name note value :: items)
  | [.keywordRest name note] => some [.mk .keywordRest name note none]
  | [] => some []
  | _ => none

/-- The parameters before the slash and after it. -/
def beforeSlash (needsDefault : Bool) : List ParamItem → Option (List Param)
  | .plain name note value :: items =>
    if needsDefault && value.isNone then none
    else (beforeSlash value.isSome items).map (.mk .positionalOnly name note value :: ·)
  | .slash :: items => afterSlash needsDefault items
  | _ => none

/-- Whether the item is a slash. -/
def isSlash : ParamItem → Bool
  | .slash => true
  | _ => false

/-- The parameters of a list of items, if they stand in a right order. A slash does not come first. -/
def assemble (items : List ParamItem) : Option (List Param) :=
  if items.any isSlash then
    if items.head?.any isSlash then none else beforeSlash false items
  else afterSlash false items

end ParamItem

open Reader

/-- Reads an annotation, where the list may have any. -/
def note (annotated : Bool) (reader : Reader Expr) : Reader (Option Expr) := do
  if annotated then optional (acceptOp ":") reader else return none

/-- Whether a token can begin an item of a parameter list. -/
def startsParam (k : TokenKind) : Bool :=
  (nameOf? k).isSome || isOp "*" k || isOp "**" k || isOp "/" k

/-- Reads an item of a parameter list. -/
def paramItem (g : Grammar) (annotated : Bool) (starNote : Reader Expr) : Reader ParamItem := do
  if ← acceptOp "/" then return .slash
  if ← acceptOp "**" then
    let n ← name
    return .keywordRest n (← note annotated g.expression)
  if ← acceptOp "*" then
    if (nameOf? (← peek).kind).isSome then
      let n ← name
      return .rest n (← note annotated starNote)
    return .star
  let n ← name
  let hint ← note annotated g.expression
  return .plain n hint (← optional (acceptOp "=") g.expression)

/-- Reads a parameter list up to the token that closes it. -/
def params (g : Grammar) (annotated : Bool) (starNote : Reader Expr) : Reader (List Param) := do
  if startsParam (← peek).kind then
    let first ← paramItem g annotated starNote
    let more ← moreItems startsParam (paramItem g annotated starNote) g.limit
    match ParamItem.assemble (first :: more) with
    | some ps => return ps
    | none => reject
  else return []

end Crosswalk.Grammar

import Crosswalk.Text.Quoted

/-!
# Encodings

A stream is written in an encoding, and what the encoding does not have cannot be written: no surrogate in UTF-8, say.
`Encoding.fault` tells where a text goes wrong, and `Encoding.escaped` writes it all the same.
-/

namespace Crosswalk

/-- The code points that can be written to a stream. -/
structure Encoding where
  name : String
  /-- Why others cannot be. -/
  reason : String
  has : CodePoint → Bool

namespace Encoding

/-- UTF-8 has all code points but the surrogates. -/
def utf8 : Encoding := ⟨"utf-8", "surrogates not allowed", fun c => !c.isSurrogate⟩

/-- Whether a text can be written. -/
def encodes (e : Encoding) (t : Text) : Bool := t.all e.has

@[simp] theorem encodes_nil (e : Encoding) : e.encodes [] := rfl

@[simp] theorem encodes_append (e : Encoding) (t t' : Text) :
    e.encodes (t ++ t') ↔ e.encodes t ∧ e.encodes t' := by
  simp [encodes]

/-- What is wrong with a text that cannot be written, in words: the first of its code points that are not in the
encoding, or the positions of several that follow one another. -/
def fault (e : Encoding) (t : Text) : String :=
  let first := (t.takeWhile e.has).length
  let missing := (t.drop first).takeWhile fun c => !e.has c
  let place := match missing with
    | [c] => "character '" ++ String.ofList c.escape ++ "' in position " ++ toString first
    | _ => "characters in position " ++ toString first ++ "-" ++ toString (first + missing.length - 1)
  "'" ++ e.name ++ "' codec can't encode " ++ place ++ ": " ++ e.reason

/-- A text with escapes for what is not in the encoding. -/
def escaped (e : Encoding) (t : Text) : String :=
  String.ofList (t.flatMap fun c => if e.has c then [c.toChar] else c.escape)

end Encoding

end Crosswalk

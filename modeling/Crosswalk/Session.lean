import Crosswalk.Registry

/-!
# Sessions

In a session a registry is used one request after the other, in any order, beside the tree in whose seed table
it was started. Only `Request.add` changes the registry and only `Request.write` changes the tree; what cannot
be answered changes neither.
-/

namespace Crosswalk

namespace Registry

/-- The function from A to B of a tag. -/
def lookup (r : Registry) (tag : Text) : Option Expr := r.aToB.get? tag

/-- The function from B to A of a constructor. -/
def lookupB (r : Registry) (constructor : String) : Option Expr := r.bToA.get? constructor

end Registry

/-- What is asked of a registry. -/
inductive Request
  /-- To take up a conversion. -/
  | add (c : Conversion)
  /-- The function from A to B of a tag. -/
  | lookup (tag : Text)
  /-- The function from B to A of a constructor. -/
  | lookupB (constructor : String)
  /-- Whether there is a function from A to B of a tag. -/
  | contains (tag : Text)
  /-- The number of functions from A to B. -/
  | size
  /-- The tags in order. -/
  | tags
  /-- To write what was taken up into the seed table. -/
  | write

/-- What a registry answers. -/
inductive Answer
  | done
  | refused (cause : Cause)
  | function (f : Expr)
  /-- There is nothing under a key. -/
  | unknown (key : Text)
  | isThere (b : Bool)
  | count (n : Nat)
  | keys (tags : List Text)

/-- Whether the answer is an error. -/
def Answer.isFailure : Answer → Bool
  | .refused _ => true
  | .unknown _ => true
  | _ => false

/-- A registry and the tree whose seed table it writes to. -/
structure Session where
  registry : Registry
  tree : Tree

namespace Session

/-- Answers a request. The seed table is the one at the place given. -/
def step (seat : Place) (s : Session) : Request → Answer × Session
  | .add c =>
    match s.registry.add c with
    | .ok r => (.done, { s with registry := r })
    | .error cause => (.refused cause, s)
  | .lookup tag => ((s.registry.lookup tag).elim (.unknown tag) .function, s)
  | .lookupB constructor =>
    ((s.registry.lookupB constructor).elim (.unknown (.ofString constructor)) .function, s)
  | .contains tag => (.isThere (s.registry.lookup tag).isSome, s)
  | .size => (.count s.registry.size, s)
  | .tags => (.keys s.registry.aToB.keys, s)
  | .write => (.done, { s with tree := s.registry.writeSeed seat s.tree })

/-- The answers to some requests, one after the other. -/
def answers (seat : Place) (s : Session) : List Request → List Answer
  | [] => []
  | q :: rest => (s.step seat q).1 :: answers seat (s.step seat q).2 rest

/-- The session after some requests. -/
def run (seat : Place) (s : Session) (requests : List Request) : Session :=
  requests.foldl (fun s q => (s.step seat q).2) s

end Session

end Crosswalk

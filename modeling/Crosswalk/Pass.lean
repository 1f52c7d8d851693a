import Crosswalk.Event
import Crosswalk.Print.Stmt
import Crosswalk.Registry

/-!
# Compile passes

A pass goes through a tree once, in the order of the source. It compiles each declaration, adds the conversion to
a registry that starts with the seed table, and puts the registration in the place of the declaration; only at the
end the seed table is extended. The first failure ends the pass. What happens on the way is logged.
-/

namespace Crosswalk

/-- A result, and what was logged before it or before the failure. -/
structure Outcome (α : Type) where
  events : List Event
  result : Except Failure α

namespace Outcome

variable {α β : Type}

/-- A result without any event. -/
def ofExcept (result : Except Failure α) : Outcome α := ⟨[], result⟩

/-- An event. -/
def log (event : Event) : Outcome Unit := ⟨[event], .ok ()⟩

/-- Goes on after a result. -/
def bind (o : Outcome α) (f : α → Outcome β) : Outcome β :=
  match o.result with
  | .ok a => ⟨o.events ++ (f a).events, (f a).result⟩
  | .error e => ⟨o.events, .error e⟩

instance : Monad Outcome where
  pure a := ofExcept (.ok a)
  bind := bind

/-- Fills in what is not known of the location of a compile error. -/
def located (l : Location) (o : Outcome α) : Outcome α :=
  { o with result := o.result.mapError (·.located l) }

end Outcome

/-! ## The pass -/

namespace Pass

/-- Compiles a statement that is a declaration. -/
def convert (config : Config) (file : Option String) (s : Stmt) : Except Failure Conversion := do
  let d ← Declaration.read file s
  (Conversion.compile config d).mapError fun cause =>
    .rejected ((CompileError.ofCause cause).located (Declaration.locationOf file s))

/-- How far a pass has come: its registry, and what the declarations so far were compiled to. -/
structure Progress where
  registry : Registry
  added : List Conversion

/-- Compiles a declaration and adds it to the registry. -/
def enlist (config : Config) (file : Option String) (w : Progress) (s : Stmt) :
    Outcome (Conversion × Progress) := do
  let c ← Outcome.ofExcept (convert config file s)
  .log (.compiled c.declaration.tag c.declaration.constructor c.fields.length)
  let r ← Outcome.ofExcept ((w.registry.add c).mapError fun cause =>
    .rejected ((CompileError.ofCause cause).located (Declaration.locationOf file s)))
  return (c, ⟨r, w.added ++ [c]⟩)

mutual

/-- Visits a statement: a declaration is added and gives way to its registration, and of all else only what stands
in the suites is changed. -/
def visit (config : Config) (file : Option String) (w : Progress) : Stmt → Outcome (Stmt × Progress)
  | .block span head body handlers orelse final => do
    let (body, w) ← visitAll config file w body
    let (handlers, w) ← visitAll config file w handlers
    let (orelse, w) ← visitAll config file w orelse
    let (final, w) ← visitAll config file w final
    return (.block span head body handlers orelse final, w)
  | s =>
    if s.isDeclaration config.declarationName then do
      let (c, w) ← enlist config file w s
      return (c.registration s.span, w)
    else return (s, w)

/-- Visits statements one after the other. -/
def visitAll (config : Config) (file : Option String) (w : Progress) : List Stmt → Outcome (List Stmt × Progress)
  | [] => return ([], w)
  | s :: rest => do
    let (s, w) ← visit config file w s
    let (rest, w) ← visitAll config file w rest
    return (s :: rest, w)

end

/-- What a pass ends with. -/
structure Result extends Progress where
  tree : Tree

/-- Runs a pass over the tree of a source of the name given. -/
def run (config : Config) (file : Option String) (source : String) (t : Tree) : Outcome Result := do
  let (start, seat) ← Outcome.ofExcept (Registry.locate config.seedTable file t)
  let (t, w) ← visitAll config file ⟨start, []⟩ t
  .log (.wrote (w.registry.size - w.registry.seedSize))
  .log (.finished w.added.length source w.registry.size config.seedTable)
  return ⟨w, w.registry.writeSeed seat t⟩

/-- The declarations of a tree by place, without compiling them. -/
def list (config : Config) (file : Option String) (t : Tree) : Except Failure (List Declaration) :=
  let le (a b : Stmt) : Bool :=
    a.span.line < b.span.line || (a.span.line = b.span.line && a.span.column ≤ b.span.column)
  let found := (t.walk.filter (·.isDeclaration config.declarationName)).mergeSort le
  found.mapM (Declaration.read file)

end Pass

end Crosswalk

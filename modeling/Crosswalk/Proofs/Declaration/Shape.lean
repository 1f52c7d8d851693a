import Crosswalk.Proofs.Declaration

/-!
# The shape of declarations

`Declaration.Shaped` says what the arguments of a call have to be for it to be read as a declaration, whatever is
called. The main statement is that just the calls of this shape are read, that what is read holds the arguments and
is read again from the call that is made of it, and that every other call is refused for the first flaw it has, with
an error at the statement: `Declaration.read_call`.
-/

namespace Crosswalk

/-- The argument by which a declaration refers to its constructor. -/
def Stmt.reference? : Stmt → Option Expr
  | .simple _ (.expr (.call _ arguments _)) => arguments[1]?
  | _ => none

/-- What is read as a declaration refers to its constructor by an expression with a dotted name. -/
theorem Declaration.reference?_of_read {name : String} {file : Option String} {s : Stmt} {d : Declaration}
    (hs : s.isDeclaration name = true) (h : read file s = .ok d) : s.reference? = some d.constructor.toExpr := by
  cases (read_eq_ok_iff_written file hs).1 h
  rfl

namespace Declaration

/-- The arguments are a string literal, a reference and perhaps a mapping, and none is given by name. -/
inductive Shaped : List Expr → List Keyword → Prop
  | intro (tag : Text) (isMarked : Bool) {constructor : Expr} {rest : List Expr} {mapping : Option Text}
      (hconstructor : constructor.IsReference) (hmapping : MappingArgument rest mapping) :
      Shaped (.constant (.str tag isMarked) :: constructor :: rest) []

/-- A declaration holds the arguments of a call in a statement of the extent given. -/
structure Holds (d : Declaration) (span : Span) (arguments : List Expr) : Prop where
  tag : ∃ isMarked, arguments[0]? = some (.constant (.str d.tag isMarked))
  constructor : arguments[1]? = some d.constructor.toExpr
  mapping : MappingArgument (arguments.drop 2) d.mapping
  pos : d.pos = ⟨span.line, span.column⟩

/-- The call of a function with what a declaration holds. -/
def toCall (d : Declaration) (function : Expr) : Expr :=
  .call function (.str d.tag :: d.constructor.toExpr :: (d.mapping.map Expr.str).toList) []

variable {pos : Pos} {span : Span} {arguments : List Expr} {keywords : List Keyword} {d : Declaration}

theorem exists_ofArguments_iff (pos : Pos) :
    (∃ d, ofArguments pos arguments keywords = .ok d) ↔ Shaped arguments keywords := by
  simp only [ofArguments_eq_ok_iff]
  constructor
  · rintro ⟨d, isMarked, rest, rfl, rfl, hmapping, -⟩
    exact .intro d.tag isMarked (Expr.isReference_iff.2 ⟨_, rfl⟩) hmapping
  · rintro ⟨tag, isMarked, hconstructor, hmapping⟩
    obtain ⟨n, rfl⟩ := Expr.isReference_iff.1 hconstructor
    exact ⟨⟨tag, n, _, pos⟩, isMarked, _, rfl, rfl, hmapping, rfl⟩

theorem holds_of_ofArguments (h : ofArguments span.start arguments keywords = .ok d) : d.Holds span arguments := by
  obtain ⟨isMarked, rest, rfl, -, hmapping, hpos⟩ := ofArguments_eq_ok_iff.1 h
  exact ⟨⟨isMarked, rfl⟩, rfl, hmapping, hpos⟩

/-- A flaw is what keeps arguments from having the shape. -/
theorem exists_flaw_iff : (∃ problem, Flaw arguments keywords problem) ↔ ¬ Shaped arguments keywords := by
  have hflaw (problem : Problem) :
      Flaw arguments keywords problem ↔ ofArguments ⟨0, 0⟩ arguments keywords = .error problem :=
    ofArguments_eq_error_iff.symm
  simp only [hflaw, ← exists_ofArguments_iff ⟨0, 0⟩]
  cases ofArguments ⟨0, 0⟩ arguments keywords <;> simp

/-- A call is read by its arguments, whatever is called. -/
theorem read_simple (file : Option String) (span : Span) (function : Expr) (arguments : List Expr)
    (keywords : List Keyword) :
    read file (.simple span (.expr (.call function arguments keywords))) =
      (ofArguments span.start arguments keywords).mapError
        (failure ⟨file, some span.line, some span.column⟩ (.call function arguments keywords)) := rfl

/-- What a declaration holds is read again from the call that is made of it. -/
theorem read_toCall (file : Option String) (function : Expr) (hpos : d.pos = span.start) :
    read file (.simple span (.expr (d.toCall function))) = .ok d := by
  have hmapping : MappingArgument (d.mapping.map Expr.str).toList d.mapping := by
    cases d.mapping with
    | none => exact .absent
    | some spec => exact .text spec false
  rw [toCall, read_simple, mapError_eq_ok]
  exact ofArguments_eq_ok_iff.2 ⟨false, _, rfl, rfl, hmapping, hpos⟩

/-- A call in a statement of its own is read as a declaration just if its arguments have the shape of one. What is
read holds them, and is read again from any call that is made of it. Otherwise the call is refused for the first flaw
of its arguments, with an error that is located at the statement and quotes the call, or for the call having no text
to quote. -/
theorem read_call (file : Option String) (span : Span) (function : Expr) (arguments : List Expr)
    (keywords : List Keyword) :
    ((∃ d, read file (.simple span (.expr (.call function arguments keywords))) = .ok d) ↔
      Shaped arguments keywords) ∧
    (∀ d, read file (.simple span (.expr (.call function arguments keywords))) = .ok d →
      d.Holds span arguments ∧
      ∀ file' function', read file' (.simple span (.expr (d.toCall function'))) = .ok d) ∧
    (¬ Shaped arguments keywords → ∃ problem, Flaw arguments keywords problem ∧
      (∀ text, (Expr.call function arguments keywords).print = .ok text →
        read file (.simple span (.expr (.call function arguments keywords))) =
          .error (.rejected ⟨.declaration (.ofString (problem.message ++ ": " ++ text)),
            ⟨file, some span.line, some span.column⟩⟩)) ∧
      ∀ fault, (Expr.call function arguments keywords).print = .error fault →
        read file (.simple span (.expr (.call function arguments keywords))) = .error (.unprintable fault)) := by
  simp only [read_simple file span function, mapError_eq_ok, mapError_eq_error]
  refine ⟨exists_ofArguments_iff _, fun d hd => ?_, fun hnot => ?_⟩
  · have hholds := holds_of_ofArguments hd
    exact ⟨hholds, fun file' function' => read_toCall file' function' hholds.pos⟩
  · obtain ⟨problem, hflaw⟩ := exists_flaw_iff.2 hnot
    refine ⟨problem, hflaw, fun text htext => ⟨problem, ofArguments_eq_error_iff.2 hflaw, ?_⟩,
      fun fault hfault => ⟨problem, ofArguments_eq_error_iff.2 hflaw, ?_⟩⟩
    · rw [failure, htext]
    · rw [failure, hfault]

end Declaration
end Crosswalk

import Crosswalk.Conversion
import Crosswalk.Proofs.Except
import Crosswalk.Proofs.Syntax.DottedName
import Mathlib.Data.List.Basic

/-!
# Reading declarations

A statement that is read as a declaration is a call with the tag and the constructor as its first arguments.
Neither reading nor compiling it depends on anything but the statement and the configuration.
-/

namespace Crosswalk

/-- A declaration is a statement of its own, and a call of the name. -/
theorem Stmt.exists_simple_of_isDeclaration {name : String} {s : Stmt} (h : s.isDeclaration name = true) :
    ∃ arguments keywords, s = .simple s.span (.expr (.call (.name name) arguments keywords)) := by
  unfold Stmt.isDeclaration at h
  split at h
  · rename_i span function arguments keywords
    unfold Expr.isName at h
    split at h
    · exact ⟨arguments, keywords, by rw [beq_iff_eq.1 h]; rfl⟩
    · exact absurd h (by simp)
  · exact absurd h (by simp)

/-- What a statement reads as does not depend on the file, which only errors tell. -/
theorem Declaration.read_eq_ok_iff {file : Option String} {s : Stmt} {d : Declaration} :
    Declaration.read file s = .ok d ↔ ∃ function arguments keywords,
      s.value? = some (.call function arguments keywords) ∧
        ofArguments s.span.start arguments keywords = .ok d := by
  rw [read]
  constructor
  · intro h
    split at h
    · rename_i function arguments keywords hvalue
      exact ⟨function, arguments, keywords, hvalue, mapError_eq_ok.1 h⟩
    · exact absurd h (by simp)
  · rintro ⟨function, arguments, keywords, hvalue, h⟩
    rw [hvalue]
    exact mapError_eq_ok.2 h

namespace Declaration

/-- What may follow the tag and the constructor of a declaration: nothing, `None`, or a mapping. -/
inductive MappingArgument : List Expr → Option Text → Prop
  | absent : MappingArgument [] none
  | none : MappingArgument [.constant .none] none
  | text (spec : Text) (isMarked : Bool) : MappingArgument [.constant (.str spec isMarked)] (some spec)

theorem mapping?_eq_some_iff {e : Expr} {mapping : Option Text} :
    mapping? e = some mapping ↔ MappingArgument [e] mapping := by
  constructor
  · intro h
    unfold mapping? at h
    split at h
    · cases h
      exact .none
    · cases h
      exact .text _ _
    · exact absurd h (by simp)
  · intro h
    cases h <;> rfl

theorem literal?_eq_some_iff {e : Expr} {t : Text} :
    e.literal? = some t ↔ ∃ isMarked, e = .constant (.str t isMarked) := by
  constructor
  · intro h
    unfold Expr.literal? at h
    split at h
    · rename_i t' isMarked
      exact ⟨isMarked, by rw [Option.some.inj h]⟩
    · exact absurd h (by simp)
  · rintro ⟨isMarked, rfl⟩
    rfl

/-- The parts are those of a declaration if each of them is of its kind. -/
theorem ofParts_eq_ok_iff {pos : Pos} {tag constructor : Expr} {mapping : Option Expr} {d : Declaration} :
    ofParts pos tag constructor mapping = .ok d ↔
      (∃ isMarked, tag = .constant (.str d.tag isMarked)) ∧ constructor = d.constructor.toExpr ∧
        MappingArgument mapping.toList d.mapping ∧ d.pos = pos := by
  rw [← literal?_eq_some_iff, ← Expr.dottedName?_eq_some_iff]
  constructor
  · intro h
    unfold ofParts at h
    split at h
    · exact absurd h (by simp)
    · rename_i t htag
      split at h
      · exact absurd h (by simp)
      · rename_i n hconstructor
        split at h
        · cases h
          exact ⟨htag, hconstructor, .absent, rfl⟩
        · split at h
          · exact absurd h (by simp)
          · rename_i m hmapping
            cases h
            exact ⟨htag, hconstructor, mapping?_eq_some_iff.1 hmapping, rfl⟩
  · rintro ⟨htag, hconstructor, hmapping, rfl⟩
    obtain ⟨t, n, m, pos⟩ := d
    dsimp only at htag hconstructor hmapping ⊢
    cases mapping with
    | none =>
      cases hmapping
      simp [ofParts, htag, hconstructor]
    | some e =>
      have he := mapping?_eq_some_iff.2 hmapping
      simp [ofParts, htag, hconstructor, he]

/-- The arguments of a declaration are its tag, its constructor and perhaps a mapping, all by position. -/
theorem ofArguments_eq_ok_iff {pos : Pos} {arguments : List Expr} {keywords : List Keyword}
    {d : Declaration} :
    ofArguments pos arguments keywords = .ok d ↔ ∃ isMarked rest,
      arguments = .constant (.str d.tag isMarked) :: d.constructor.toExpr :: rest ∧ keywords = [] ∧
        MappingArgument rest d.mapping ∧ d.pos = pos := by
  unfold ofArguments
  constructor
  · intro h
    split at h
    · exact absurd h (by simp)
    · rename_i hkeywords
      have hnil : keywords = [] := by simpa using hkeywords
      split at h
      · obtain ⟨⟨isMarked, rfl⟩, rfl, hmapping, hpos⟩ := ofParts_eq_ok_iff.1 h
        exact ⟨isMarked, [], rfl, hnil, hmapping, hpos⟩
      · rename_i mapping
        obtain ⟨⟨isMarked, rfl⟩, rfl, hmapping, hpos⟩ := ofParts_eq_ok_iff.1 h
        exact ⟨isMarked, [mapping], rfl, hnil, hmapping, hpos⟩
      · exact absurd h (by simp)
  · rintro ⟨isMarked, rest, rfl, rfl, hmapping, hpos⟩
    rw [if_neg (by simp)]
    have hparts (mapping : Option Expr) (h : mapping.toList = rest) :
        ofParts pos (.constant (.str d.tag isMarked)) d.constructor.toExpr mapping = .ok d :=
      ofParts_eq_ok_iff.2 ⟨⟨isMarked, rfl⟩, rfl, h ▸ hmapping, hpos⟩
    generalize d.mapping = m at hmapping
    cases hmapping with
    | absent => exact hparts none rfl
    | none => exact hparts (some _) rfl
    | text spec isMarked' => exact hparts (some _) rfl

/-- The first two arguments of a declaration are its tag and its constructor. -/
theorem exists_arguments {pos : Pos} {arguments : List Expr} {keywords : List Keyword}
    {d : Declaration} (h : ofArguments pos arguments keywords = .ok d) :
    ∃ isUnicode more, arguments = .constant (.str d.tag isUnicode) :: d.constructor.toExpr :: more ∧
      keywords = [] := by
  obtain ⟨isMarked, rest, harguments, hkeywords, -⟩ := ofArguments_eq_ok_iff.1 h
  exact ⟨isMarked, rest, harguments, hkeywords⟩

/-- What is wrong with arguments that are not those of a declaration. A problem is told only if none of those
that are looked for before it is there. -/
inductive Flaw : List Expr → List Keyword → Problem → Prop
  | keywords {arguments : List Expr} {keywords : List Keyword} (h : keywords ≠ []) :
      Flaw arguments keywords .keywords
  | count {arguments : List Expr} (h : arguments.length ≠ 2 ∧ arguments.length ≠ 3) :
      Flaw arguments [] (.count arguments.length)
  | tag {tag constructor : Expr} {mapping : Option Expr}
      (h : ∀ text isMarked, tag ≠ .constant (.str text isMarked)) :
      Flaw (tag :: constructor :: mapping.toList) [] .tag
  | constructor {text : Text} {isMarked : Bool} {constructor : Expr} {mapping : Option Expr}
      (h : ∀ name : DottedName, constructor ≠ name.toExpr) :
      Flaw (.constant (.str text isMarked) :: constructor :: mapping.toList) [] .constructor
  | mapping {text : Text} {isMarked : Bool} {constructor : DottedName} {mapping : Expr}
      (h : ∀ spec, ¬ MappingArgument [mapping] spec) :
      Flaw [.constant (.str text isMarked), constructor.toExpr, mapping] [] .mapping

/-- The parts that are not those of a declaration have the flaw that is told. -/
theorem flaw_of_ofParts {pos : Pos} {tag constructor : Expr} {mapping : Option Expr} {problem : Problem}
    (h : ofParts pos tag constructor mapping = .error problem) :
    Flaw (tag :: constructor :: mapping.toList) [] problem := by
  unfold ofParts at h
  split at h
  · rename_i htag
    cases h
    refine .tag fun text isMarked heq => ?_
    rw [literal?_eq_some_iff.2 ⟨isMarked, heq⟩] at htag
    cases htag
  · rename_i text htag
    obtain ⟨isMarked, rfl⟩ := literal?_eq_some_iff.1 htag
    split at h
    · rename_i hconstructor
      cases h
      refine .constructor fun name heq => ?_
      rw [Expr.dottedName?_eq_some_iff.2 heq] at hconstructor
      cases hconstructor
    · rename_i name hconstructor
      obtain rfl := Expr.dottedName?_eq_some_iff.1 hconstructor
      split at h
      · cases h
      · split at h
        · rename_i argument hargument
          cases h
          refine .mapping fun spec hspec => ?_
          rw [mapping?_eq_some_iff.2 hspec] at hargument
          cases hargument
        · cases h

theorem Flaw.ofArguments_eq {arguments : List Expr} {keywords : List Keyword} {problem : Problem}
    (h : Flaw arguments keywords problem) (pos : Pos) :
    ofArguments pos arguments keywords = .error problem := by
  -- a call of two or three arguments by position is taken apart
  have hparts (tag constructor : Expr) (mapping : Option Expr) :
      ofArguments pos (tag :: constructor :: mapping.toList) [] = ofParts pos tag constructor mapping := by
    cases mapping <;> rfl
  cases h with
  | keywords h =>
    unfold ofArguments
    rw [if_pos (by simpa using h)]
  | count h =>
    unfold ofArguments
    rw [if_neg (by simp)]
    split
    · exact absurd rfl h.1
    · exact absurd rfl h.2
    · rfl
  | tag h =>
    have htag := Option.eq_none_iff_forall_ne_some.2 fun text heq =>
      let ⟨isMarked, heq⟩ := literal?_eq_some_iff.1 heq
      h text isMarked heq
    rw [hparts, ofParts, htag]
  | constructor h =>
    have hconstructor := Option.eq_none_iff_forall_ne_some.2 fun name heq =>
      h name (Expr.dottedName?_eq_some_iff.1 heq)
    simp only [hparts, ofParts, Expr.literal?, hconstructor]
  | mapping h =>
    rename_i text isMarked constructor argument
    have hargument := Option.eq_none_iff_forall_ne_some.2 fun spec heq =>
      h spec (mapping?_eq_some_iff.1 heq)
    have hconstructor := Expr.dottedName?_eq_some_iff.2 (rfl : constructor.toExpr = _)
    rw [show ([Expr.constant (.str text isMarked), constructor.toExpr, argument] : List Expr) =
      _ :: _ :: (some argument).toList from rfl, hparts]
    simp only [ofParts, Expr.literal?, hconstructor, hargument]

/-- Arguments that are not those of a declaration are refused for the first flaw they have. -/
theorem ofArguments_eq_error_iff {pos : Pos} {arguments : List Expr} {keywords : List Keyword}
    {problem : Problem} :
    ofArguments pos arguments keywords = .error problem ↔ Flaw arguments keywords problem := by
  refine ⟨fun h => ?_, fun h => h.ofArguments_eq pos⟩
  unfold ofArguments at h
  split at h
  · rename_i hkeywords
    cases h
    exact .keywords (by simpa using hkeywords)
  · rename_i hkeywords
    have hnil : keywords = [] := by simpa using hkeywords
    subst hnil
    split at h
    · exact flaw_of_ofParts h
    · exact flaw_of_ofParts h
    · rename_i htwo hthree
      cases h
      refine .count ⟨fun hlength => ?_, fun hlength => ?_⟩
      · obtain ⟨a, b, rfl⟩ := List.length_eq_two.1 hlength
        exact htwo a b rfl
      · obtain ⟨a, b, c, rfl⟩ := List.length_eq_three.1 hlength
        exact hthree a b c rfl

/-- How a statement is written that declares: as a call of the name with the tag, the constructor and perhaps
a mapping as its arguments. -/
inductive Written (name : String) (d : Declaration) : Stmt → Prop
  | intro (span : Span) (isMarked : Bool) (rest : List Expr) (hmapping : MappingArgument rest d.mapping)
      (hpos : d.pos = span.start) :
      Written name d (.simple span (.expr (.call (.name name)
        (.constant (.str d.tag isMarked) :: d.constructor.toExpr :: rest) [])))

/-- A call of the name is read as the declaration that it is written as. -/
theorem read_eq_ok_iff_written {name : String} (file : Option String) {s : Stmt} {d : Declaration}
    (hs : s.isDeclaration name = true) : read file s = .ok d ↔ d.Written name s := by
  obtain ⟨arguments, keywords, hsimple⟩ := Stmt.exists_simple_of_isDeclaration hs
  rw [read_eq_ok_iff, hsimple]
  constructor
  · rintro ⟨function, arguments', keywords', hvalue, hd⟩
    cases hvalue
    obtain ⟨isMarked, rest, rfl, rfl, hmapping, hpos⟩ := ofArguments_eq_ok_iff.1 hd
    exact .intro s.span isMarked rest hmapping hpos
  · intro h
    cases h with
    | intro _ isMarked rest hmapping hpos =>
      exact ⟨_, _, _, rfl, ofArguments_eq_ok_iff.2 ⟨isMarked, rest, rfl, rfl, hmapping, hpos⟩⟩

/-- A call of the name that is not written as a declaration is refused, with a failure that quotes it. -/
theorem read_eq_error_iff {name : String} {file : Option String} {s : Stmt} {f : Failure}
    (hs : s.isDeclaration name = true) :
    read file s = .error f ↔ ∃ arguments keywords problem,
      s = .simple s.span (.expr (.call (.name name) arguments keywords)) ∧ Flaw arguments keywords problem ∧
        failure (locationOf file s) (.call (.name name) arguments keywords) problem = f := by
  obtain ⟨arguments, keywords, hsimple⟩ := Stmt.exists_simple_of_isDeclaration hs
  have hread : read file s = (ofArguments s.span.start arguments keywords).mapError
      (failure (locationOf file s) (.call (.name name) arguments keywords)) := by
    rw [hsimple]
    rfl
  rw [hread, mapError_eq_error]
  constructor
  · rintro ⟨problem, hproblem, hfailure⟩
    exact ⟨arguments, keywords, problem, hsimple, ofArguments_eq_error_iff.1 hproblem, hfailure⟩
  · rintro ⟨arguments', keywords', problem, hsimple', hflaw, hfailure⟩
    rw [hsimple] at hsimple'
    cases hsimple'
    exact ⟨problem, ofArguments_eq_error_iff.2 hflaw, hfailure⟩

end Declaration

/-- A declaration is compiled by reading its mapping. -/
theorem Conversion.compile_eq_ok_iff {config : Config} {d : Declaration} {c : Conversion} :
    compile config d = .ok c ↔
      ∃ fields, Mapping.fields d.mapping = .ok fields ∧ ofFields config d fields = c := by
  rw [compile, map_eq_ok]

end Crosswalk

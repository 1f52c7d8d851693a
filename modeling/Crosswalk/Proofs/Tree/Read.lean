import Crosswalk.Proofs.Comment.Order
import Crosswalk.Proofs.Grammar.Layout
import Crosswalk.Proofs.Tree.Equality
import Crosswalk.Source

/-!
# The order of declarations in what is read

The declarations of a parsed source stand in the order of the places where they begin. With its comments in place
the source may have another order, but only if the last lines of the statements in a suite do not rise:
`Tree.inPlace_read`.
-/

namespace Crosswalk

/-- No comment moves a statement of the source: it has no comments, or the last lines of its statements rise in
every suite, those of the blocks stretched over the lines around them. -/
def Source.IsSteady (s : Source) : Prop :=
  ∀ bare cs rs, Tree.parse s.code.toList = .ok bare → readComments s.code.toList = .ok cs → cs ≠ [] →
    Comment.regions (.ofSource s.code.toList) bare = some rs → Comment.Steady rs bare

namespace Tree

/-- The declarations stand in the tree in the order of the places where they begin. -/
def InPlace (name : String) (t : Tree) : Prop :=
  (t.declarations name).Pairwise fun a b => a.span.start.Before b.span.start

variable {name : String} {t : Tree}

/-- Declarations stand in the order of their places if none stands behind one that begins later, and no two begin
at one place. -/
theorem inPlace_iff : t.InPlace name ↔
    ((t.declarations name).map (·.span.start)).Pairwise Pos.NotAfter ∧
      ((t.declarations name).map (·.span.start)).Nodup := by
  rw [InPlace, ← List.pairwise_map (f := fun s : Stmt => s.span.start) (R := Pos.Before), List.Nodup,
    ← List.pairwise_and_iff]
  exact ⟨List.Pairwise.imp Pos.before_iff.1, List.Pairwise.imp Pos.before_iff.2⟩

/-- A parsed source has its declarations in the order of their places. -/
theorem inPlace_parse {source : List Char} (h : parse source = .ok t) (name : String) : t.InPlace name :=
  (inOrder_parse h).filter _

/-- What is read of a text are its statements with its comments in place. -/
theorem read_eq_ok_iff {code : String} : read code = .ok t ↔
    code.toList.contains '\x00' = false ∧ ∃ bare cs, parse code.toList = .ok bare ∧
      readComments code.toList = .ok cs ∧ Comment.place code.toList cs bare = some t := by
  unfold read
  dsimp only
  cases code.toList.contains '\x00' with
  | true =>
    refine ⟨fun h => ?_, nofun⟩
    obtain ⟨_, hthrow, -⟩ := bind_eq_ok.1 h
    cases hthrow
  | false =>
    simp only [Bool.false_eq_true, if_false, bind_eq_ok, mapError_eq_ok, true_and, exists_and_left]
    refine exists_congr fun bare => and_congr_right fun _ => exists_congr fun cs => and_congr_right fun _ => ?_
    cases Comment.place code.toList cs bare with
    | some tree => exact ⟨fun h => congrArg some (Except.ok.inj h), fun h => congrArg _ (Option.some.inj h)⟩
    | none => exact ⟨nofun, nofun⟩

/-- Why a text has no tree: it holds a null character, or it does not parse, or the scan for comments fails though
it parses, or its comments cannot be placed. -/
inductive Unreadable (code : String) : ReadError → Prop
  | nullCharacter (hnull : code.toList.contains '\x00' = true) : Unreadable code .nullCharacter
  | unparsed {error : SyntaxError} (hnull : code.toList.contains '\x00' = false)
      (hparse : parse code.toList = .error error) : Unreadable code (.rejected error)
  | unscanned {bare : Tree} {fault : Comment.ScanFault} (hnull : code.toList.contains '\x00' = false)
      (hparse : parse code.toList = .ok bare) (hscan : Comment.scan code.toList = .error fault) :
      Unreadable code fault.error
  | unplaced {bare : Tree} {cs : List Comment} (hnull : code.toList.contains '\x00' = false)
      (hparse : parse code.toList = .ok bare) (hscan : Comment.scan code.toList = .ok cs)
      (hplace : Comment.place code.toList cs bare = none) : Unreadable code .missingLine

theorem read_eq_error_iff {code : String} {e : ReadError} : read code = .error e ↔ Unreadable code e := by
  have hread : read code = if code.toList.contains '\x00' then .error .nullCharacter else
      ((parse code.toList).mapError .rejected) >>= fun bare => readComments code.toList >>= fun cs =>
        (Comment.place code.toList cs bare).elim (.error .missingLine) .ok := by
    unfold read
    dsimp only
    cases code.toList.contains '\x00' with
    | true => rfl
    | false =>
      refine congrArg (_ >>= ·) (funext fun bare => congrArg (_ >>= ·) (funext fun cs => ?_))
      cases Comment.place code.toList cs bare <;> rfl
  rw [hread]
  constructor
  · intro h
    split at h
    · rename_i hnull
      cases h
      exact .nullCharacter hnull
    · rename_i hnull
      rw [Bool.not_eq_true] at hnull
      rcases bind_eq_error.1 h with h | ⟨bare, hparse, h⟩
      · obtain ⟨error, hparse, rfl⟩ := mapError_eq_error.1 h
        exact .unparsed hnull hparse
      rw [mapError_eq_ok] at hparse
      rcases bind_eq_error.1 h with h | ⟨cs, hscan, h⟩
      · obtain ⟨fault, hscan, rfl⟩ := mapError_eq_error.1 h
        exact .unscanned hnull hparse hscan
      rw [readComments, mapError_eq_ok] at hscan
      cases hplace : Comment.place code.toList cs bare with
      | some tree =>
        rw [hplace] at h
        cases h
      | none =>
        rw [hplace] at h
        cases h
        exact .unplaced hnull hparse hscan hplace
  · intro h
    cases h with
    | nullCharacter hnull => rw [if_pos hnull]
    | unparsed hnull hparse =>
      rw [hnull, hparse]
      rfl
    | unscanned hnull hparse hscan =>
      rw [hnull, hparse, readComments, hscan]
      rfl
    | unplaced hnull hparse hscan hplace =>
      rw [hnull, hparse, readComments, hscan]
      simp [bind, Except.bind, Except.mapError, hplace]

/-- What is read of a text has its declarations in the order of their places if no comment moves them. -/
theorem inPlace_read {s : Source} (h : read s.code = .ok s.tree) (hs : s.IsSteady) (name : String) :
    s.tree.InPlace name := by
  obtain ⟨-, bare, cs, hbare, hcs, hplace⟩ := read_eq_ok_iff.1 h
  have hlines : ∀ c ∈ cs, c.span.endLine = c.span.line :=
    Comment.endLine_of_scanLines (mapError_eq_ok.1 hcs)
  rw [InPlace, Comment.declarations_place name hplace (isBare_parse hbare) hlines
    fun hne rs hrs => hs bare cs rs hbare hcs hne hrs]
  exact inPlace_parse hbare name

end Tree

end Crosswalk

import Crosswalk.Token.Lexer
import Mathlib.Tactic.Common

/-!
# The order of tokens

The tokens of a source stand in the order of their places, `Token.inOrder_scan`. Marks for the indentation take no
room, but an operator does, and so does the end of a line: what follows one of these begins later.
-/

namespace Crosswalk

namespace Pos

/-- The order of the places of a source. -/
def Before (p q : Pos) : Prop := p.line < q.line ∨ p.line = q.line ∧ p.column < q.column

/-- The order of the places of a source, each place with itself included. -/
def NotAfter (p q : Pos) : Prop := ¬ q.Before p

instance (p q : Pos) : Decidable (p.Before q) := inferInstanceAs (Decidable (_ ∨ _))

variable {p q r : Pos}

theorem Before.notAfter (h : p.Before q) : p.NotAfter q := by
  simp only [NotAfter, Before] at *
  omega

theorem NotAfter.rfl : p.NotAfter p := by
  simp only [NotAfter, Before]
  omega

theorem NotAfter.trans (h : p.NotAfter q) (h' : q.NotAfter r) : p.NotAfter r := by
  simp only [NotAfter, Before] at *
  omega

theorem NotAfter.trans_before (h : p.NotAfter q) (h' : q.Before r) : p.Before r := by
  simp only [NotAfter, Before] at *
  omega

theorem Before.trans_notAfter (h : p.Before q) (h' : q.NotAfter r) : p.Before r := by
  simp only [NotAfter, Before] at *
  omega

theorem notAfter_total (p q : Pos) : p.NotAfter q ∨ q.NotAfter p := by
  simp only [NotAfter, Before]
  omega

theorem before_iff : p.Before q ↔ p.NotAfter q ∧ p ≠ q := by
  obtain ⟨line, column⟩ := p
  obtain ⟨line', column'⟩ := q
  simp only [NotAfter, Before, ne_eq, Pos.mk.injEq]
  omega

/-- A character takes room. -/
theorem before_advance (p : Pos) (c : Char) : p.Before (p.advance c) := by
  have := c.utf8Size_pos
  unfold Before advance
  split
  · exact .inl (Nat.lt_succ_self _)
  · exact .inr ⟨rfl, by dsimp only; omega⟩

theorem notAfter_advanceAll (p : Pos) (cs : List Char) : p.NotAfter (p.advanceAll cs) := by
  induction cs generalizing p with
  | nil => exact .rfl
  | cons c cs ih => exact (p.before_advance c).notAfter.trans (ih _)

theorem before_advanceAll (p : Pos) {cs : List Char} (h : cs ≠ []) : p.Before (p.advanceAll cs) := by
  cases cs with
  | nil => exact absurd rfl h
  | cons c cs => exact (p.before_advance c).trans_notAfter (notAfter_advanceAll _ cs)

end Pos

/-- Whether a token is an operator or the end of a line. -/
def TokenKind.divides : TokenKind → Bool
  | .op _ | .newline => true
  | _ => false

namespace Token

/-- The tokens stand in the order of their places, and what follows an operator or the end of a line begins later. -/
def InOrder (ts : List Token) : Prop :=
  ts.Pairwise fun t u => t.start.NotAfter u.start ∧ (t.kind.divides = true → t.start.Before u.start)

/-- The tokens stand in order, and none begins before the place given. -/
structure InOrderFrom (p : Pos) (ts : List Token) : Prop where
  start : ∀ t ∈ ts, p.NotAfter t.start
  inOrder : InOrder ts

namespace InOrderFrom

variable {p q : Pos} {t : Token} {ts : List Token}

theorem mono (h : InOrderFrom q ts) (hpq : p.NotAfter q) : InOrderFrom p ts :=
  ⟨fun t ht => hpq.trans (h.start t ht), h.inOrder⟩

theorem single (p : Pos) (kind : TokenKind) : InOrderFrom p [mark p kind] :=
  ⟨by simp [mark, Pos.NotAfter.rfl], List.pairwise_singleton _ _⟩

theorem cons (h : InOrderFrom q ts) (hq : t.start.NotAfter q) (hdivides : t.kind.divides = true → t.start.Before q) :
    InOrderFrom t.start (t :: ts) := by
  refine ⟨fun u hu => ?_, List.pairwise_cons.2 ⟨fun u hu => ⟨?_, fun ht => ?_⟩, h.inOrder⟩⟩
  · rcases List.mem_cons.1 hu with rfl | hu
    · exact .rfl
    · exact hq.trans (h.start u hu)
  · exact hq.trans (h.start u hu)
  · exact (hdivides ht).trans_notAfter (h.start u hu)

/-- Marks that take no room, in front of other tokens. -/
theorem marks_append {kinds : List TokenKind} (hkinds : ∀ k ∈ kinds, k.divides = false) (h : InOrderFrom p ts) :
    InOrderFrom p (kinds.map (mark p) ++ ts) := by
  induction kinds with
  | nil => exact h
  | cons k kinds ih =>
    have hrest := ih fun k' hk' => hkinds k' (List.mem_cons_of_mem k hk')
    refine cons (t := mark p k) hrest .rfl fun hk => ?_
    rw [mark, hkinds k List.mem_cons_self] at hk
    cases hk

end InOrderFrom

/-! ## The parts of the scan -/

/-- The blanks in front of a line are passed over. -/
theorem notAfter_margin {first wide narrow : Nat} {p : Pos} {cs : List Char} {m : Margin}
    (h : margin first wide narrow p cs = some m) : p.NotAfter m.pos := by
  fun_induction margin first wide narrow p cs with
  | case1 first wide narrow p cs ih => exact (p.before_advance ' ').notAfter.trans (ih h)
  | case2 first wide narrow p cs ih => exact (p.before_advance '\t').notAfter.trans (ih h)
  | case3 first wide narrow p cs ih => exact (p.before_advance '\x0c').notAfter.trans (ih h)
  | case4 => cases h
  | case5 first wide narrow p cs hcs ih =>
    exact ((p.before_advance '\\').notAfter.trans (Pos.before_advance _ '\n').notAfter).trans (ih h)
  | case6 => cases h
  | case7 => cases h; exact .rfl
  | case8 => cases h; exact .rfl

/-- A change of indentation gives tokens that begin or end a suite. -/
theorem eq_of_mem_reindent {wide narrow : Nat} {indents indents' : List (Nat × Nat)} {kinds : List TokenKind}
    (h : reindent wide narrow indents = .ok (kinds, indents')) : ∀ k ∈ kinds, k = .indent ∨ k = .dedent := by
  unfold reindent at h
  split at h
  · cases h
  · split at h
    · split at h <;> cases h
      simp
    · split at h
      · repeat' split at h
        all_goals cases h
        simp
      · dsimp only at h
        split at h
        · cases h
        · repeat' split at h
          all_goals cases h
          exact fun k hk => .inr (List.eq_of_mem_replicate hk)

theorem divides_of_mem_reindent {wide narrow : Nat} {indents indents' : List (Nat × Nat)} {kinds : List TokenKind}
    (h : reindent wide narrow indents = .ok (kinds, indents')) : ∀ k ∈ kinds, k.divides = false := by
  intro k hk
  rcases eq_of_mem_reindent h k hk with rfl | rfl <;> rfl

/-- An operator has a character at least. -/
theorem length_lt_of_first {brackets brackets' cs rest : List Char} {kind : TokenKind}
    (h : first brackets cs = some (kind, rest, brackets')) (hkind : kind.divides = true) :
    rest.length < cs.length := by
  unfold first at h
  split at h
  · obtain ⟨_, -, h⟩ := Option.map_eq_some_iff.1 h
    cases h
    cases hkind
  · split at h
    · cases h
    · split at h
      · obtain ⟨_, -, h⟩ := Option.map_eq_some_iff.1 h
        cases h
        cases hkind
      · split at h
        · obtain ⟨_, -, h⟩ := Option.map_eq_some_iff.1 h
          cases h
          cases hkind
        · split at h
          · rename_i c rest' _ _ o' ho'
            have hlong : ∀ o ∈ longOperators, 0 < o.length := by decide
            have := hlong o' (List.mem_of_find?_eq_some ho')
            cases h
            simp only [List.length_drop, List.length_cons]
            omega
          · obtain ⟨_, -, h⟩ := Option.bind_eq_some_iff.1 h
            split at h <;> cases h
            exact Nat.lt_succ_self _

theorem inOrderFrom_finish (l : Layout) : InOrderFrom l.pos (finish l) := by
  unfold finish
  split
  · rw [← List.map_replicate]
    refine .marks_append (fun k hk => ?_) (.single l.pos .ending)
    rw [List.eq_of_mem_replicate hk]
    rfl
  · exact .single l.pos _

/-! ## The scan -/

/-- From the begin of a line as from its midst the tokens stand in order. -/
theorem inOrderFrom_scan (fuel : Nat) :
    (∀ l cs, InOrderFrom l.pos (scanLine fuel l cs)) ∧
      ∀ isBlank l cs, InOrderFrom l.pos (scanRest fuel isBlank l cs) := by
  induction fuel with
  | zero => exact ⟨fun l cs => .single l.pos _, fun isBlank l cs => .single l.pos _⟩
  | succ fuel ih =>
    obtain ⟨hline, hrest⟩ := ih
    refine ⟨fun l cs => ?_, fun isBlank l cs => ?_⟩
    · unfold scanLine
      split
      · exact .single l.pos _
      · rename_i m hm
        have hpos := notAfter_margin hm
        dsimp only
        split
        · exact (hrest _ { l with pos := m.pos } _).mono hpos
        · split
          · exact (InOrderFrom.single m.pos _).mono hpos
          · rename_i kinds indents hkinds
            exact (InOrderFrom.marks_append (divides_of_mem_reindent hkinds)
              (hrest false { l with pos := m.pos, indents := indents } _)).mono hpos
    · have hblank (c : Char) (rest : List Char) :
          InOrderFrom l.pos (scanRest fuel isBlank { l with pos := l.pos.advance c } rest) :=
        (hrest isBlank { l with pos := l.pos.advance c } rest).mono (l.pos.before_advance c).notAfter
      unfold scanRest
      split
      · exact inOrderFrom_finish l
      · exact hblank ' ' _
      · exact hblank '\t' _
      · exact hblank '\x0c' _
      · rename_i rest
        refine (hrest _ _ _).mono ((l.pos.before_advance '#').notAfter.trans ?_)
        exact Pos.notAfter_advanceAll _ _
      · rename_i rest
        have hnext := hline { l with pos := l.pos.advance '\n' } rest
        dsimp only
        split
        · exact hnext.mono (l.pos.before_advance '\n').notAfter
        · exact InOrderFrom.cons (t := ⟨.newline, l.pos, l.pos⟩) hnext (l.pos.before_advance '\n').notAfter
            fun _ => l.pos.before_advance '\n'
      · exact .single l.pos _
      · refine (hrest _ _ _).mono ((l.pos.before_advance '\\').notAfter.trans ?_)
        exact (Pos.before_advance _ '\n').notAfter
      · exact .single l.pos _
      · split
        · exact .single l.pos _
        · rename_i kind rest brackets hfirst
          let stop := l.pos.advanceAll (cs.take (cs.length - rest.length))
          refine InOrderFrom.cons (t := ⟨kind, l.pos, stop⟩)
            (hrest isBlank { l with pos := stop, brackets := brackets } rest) (l.pos.notAfter_advanceAll _)
            fun hkind => l.pos.before_advanceAll ?_
          have hlt := length_lt_of_first hfirst hkind
          exact List.ne_nil_of_length_pos (by rw [List.length_take]; omega)

/-- The tokens of some characters stand in order. -/
theorem inOrder_scanChars (cs : List Char) : InOrder (scanChars cs) := ((inOrderFrom_scan _).1 _ cs).inOrder

/-- The tokens of a source stand in order. -/
theorem inOrder_scan (source : List Char) : InOrder (scan source) := inOrder_scanChars _

end Token

end Crosswalk

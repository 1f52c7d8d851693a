import Crosswalk.Grammar.Reader
import Crosswalk.Proofs.Text.Normalize
import Crosswalk.Proofs.Token.Order
import Mathlib.Data.List.TakeWhile

/-!
# Words and names

A word among the tokens of a source is made of word characters, of which the dot is none. So there is no dot in a name
that is read of a source, `Reader.dot_not_mem_nameOf?`.
-/

namespace Crosswalk

/-- If a token is a word, all its characters may stand in a word. -/
def TokenKind.IsPlain (k : TokenKind) : Prop := ∀ w, k = .word w → ∀ c ∈ w.toList, Numeral.isWordPart c = true

theorem TokenKind.isPlain_of_ne {k : TokenKind} (h : ∀ w, k ≠ .word w) : k.IsPlain := fun w hw => absurd hw (h w)

theorem Numeral.isWordPart_dot : isWordPart '.' = false := by decide

namespace Token

/-- The tokens are all plain. -/
def ArePlain (ts : List Token) : Prop := ∀ t ∈ ts, t.kind.IsPlain

theorem isPlain_of_first {brackets brackets' cs rest : List Char} {kind : TokenKind}
    (h : first brackets cs = some (kind, rest, brackets')) : kind.IsPlain := by
  rintro w rfl
  unfold first at h
  split at h
  · obtain ⟨_, -, h⟩ := Option.map_eq_some_iff.1 h
    cases h
  · split at h
    · cases h
    · split at h
      · obtain ⟨_, -, h⟩ := Option.map_eq_some_iff.1 h
        cases h
      · split at h
        · obtain ⟨w', hw', h⟩ := Option.map_eq_some_iff.1 h
          cases h
          unfold word? at hw'
          dsimp only at hw'
          split at hw'
          · cases hw'
            rw [String.toList_ofList]
            exact fun c hc => List.mem_takeWhile_imp hc
          · cases hw'
        · split at h
          · cases h
          · obtain ⟨_, -, h⟩ := Option.bind_eq_some_iff.1 h
            split at h <;> cases h

/-! ## The scan -/

/-- From the begin of a line as from its midst the tokens are plain. -/
theorem arePlain_scanFrom (fuel : Nat) : (∀ l cs, ArePlain (scanLine fuel l cs)) ∧
    ∀ isBlank l cs, ArePlain (scanRest fuel isBlank l cs) := by
  have hmark (pos : Pos) (kind : TokenKind) (hkind : ∀ w, kind ≠ .word w) : ArePlain [mark pos kind] :=
    List.forall_mem_singleton.2 (TokenKind.isPlain_of_ne hkind)
  induction fuel with
  | zero => exact ⟨fun l cs => hmark _ _ (by simp), fun isBlank l cs => hmark _ _ (by simp)⟩
  | succ fuel ih =>
    obtain ⟨hline, hrest⟩ := ih
    refine ⟨fun l cs => ?_, fun isBlank l cs => ?_⟩
    · unfold scanLine
      split
      · exact hmark _ _ (by simp)
      · dsimp only
        split
        · exact hrest _ _ _
        · split
          · exact hmark _ _ (by simp)
          · rename_i kinds indents hkinds
            intro t ht
            rcases List.mem_append.1 ht with ht | ht
            · obtain ⟨k, hk, rfl⟩ := List.mem_map.1 ht
              rcases eq_of_mem_reindent hkinds k hk with rfl | rfl
              all_goals exact TokenKind.isPlain_of_ne (by simp [mark])
            · exact hrest _ _ _ t ht
    · unfold scanRest
      split
      · unfold finish
        split
        · intro t ht
          rcases List.mem_append.1 ht with ht | ht
          · rw [List.eq_of_mem_replicate ht]
            exact TokenKind.isPlain_of_ne (by simp [mark])
          · exact hmark _ .ending (by simp) t ht
        · exact hmark _ _ (by simp)
      · exact hrest _ _ _
      · exact hrest _ _ _
      · exact hrest _ _ _
      · exact hrest _ _ _
      · dsimp only
        split
        · exact hline _ _
        · exact List.forall_mem_cons.2 ⟨TokenKind.isPlain_of_ne (by simp), hline _ _⟩
      · exact hmark _ _ (by simp)
      · exact hrest _ _ _
      · exact hmark _ _ (by simp)
      · split
        · exact hmark _ _ (by simp)
        · rename_i hfirst
          exact List.forall_mem_cons.2 ⟨isPlain_of_first hfirst, hrest _ _ _⟩

/-- The tokens of a source are plain. -/
theorem arePlain_scan (source : List Char) : ArePlain (scan source) := (arePlain_scanFrom _).1 _ _

end Token

/-- There is no dot in the name that a plain token is. -/
theorem Reader.dot_not_mem_nameOf? {k : TokenKind} {n : String} (hk : k.IsPlain) (h : nameOf? k = some n) :
    '.' ∉ n.toList := by
  unfold nameOf? at h
  split at h
  · rename_i w
    split at h
    · cases h
    · cases h
      refine Text.dot_not_mem_normalize fun hdot => ?_
      have := hk w rfl _ hdot
      simp [Numeral.isWordPart_dot] at this
  · cases h

end Crosswalk

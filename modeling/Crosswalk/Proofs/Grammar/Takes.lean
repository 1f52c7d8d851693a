import Crosswalk.Proofs.Grammar.Reads

/-!
# What a reader takes

What is read is settled by the kinds of the tokens, not by where they stand. `Reader.Takes` says which kinds a reader
takes, what it makes of them and which kinds it leaves. One reader after another is followed by `Takes.bind`, and a
choice by what comes next by `Takes.skipOp` and `Takes.takeOp`; repetitions are followed item by item, `takes_moreItems`.
-/

namespace Crosswalk.Reader

variable {α β : Type} {r r' : Reader α} {f : α → Reader β} {a : α} {s w : String} {k k' : TokenKind}
  {ks ks' ks'' : List TokenKind} {P P' : α → Prop} {Q : β → Prop}

/-- From tokens of the first kinds on a value with the property is read, and tokens of the second kinds are left. -/
def Takes (r : Reader α) (ks : List TokenKind) (P : α → Prop) (ks' : List TokenKind) : Prop :=
  ∀ c : Cursor, c.tokens.map Token.kind = ks →
    ∃ a c', r.Reads c a c' ∧ P a ∧ c'.tokens.map Token.kind = ks'

/-- A token that can be looked at. -/
def Sound (k : TokenKind) : Prop := ∀ cause, k ≠ .fault cause

/-! ## One reader after another -/

theorem takes_pure (h : P a) : (pure a : Reader α).Takes ks P ks :=
  fun c hc => ⟨a, c, reads_pure_iff.2 ⟨rfl, rfl⟩, h, hc⟩

theorem Takes.bind (h : r.Takes ks P ks') (h' : ∀ a, P a → (f a).Takes ks' Q ks'') : (r >>= f).Takes ks Q ks'' := by
  intro c hc
  obtain ⟨a, c', hread, ha, hc'⟩ := h c hc
  obtain ⟨b, c'', hread', hb, hc''⟩ := h' a ha c' hc'
  exact ⟨b, c'', reads_bind_iff.2 ⟨a, c', hread, hread'⟩, hb, hc''⟩

theorem Takes.then (h : r.Takes ks (· = a) ks') (h' : (f a).Takes ks' Q ks'') : (r >>= f).Takes ks Q ks'' :=
  h.bind fun _ ha => ha ▸ h'

/-! ## The next token -/

@[simp] theorem isOp_op (s o : String) : isOp s (.op o) = (o == s) := rfl

@[simp] theorem isOp_string (s : String) (literal : StringToken) : isOp s (.string literal) = false := rfl

@[simp] theorem isOp_newline (s : String) : isOp s .newline = false := rfl

@[simp] theorem isWord_word (w v : String) : isWord w (.word v) = (v == w) := rfl

theorem sound_op : Sound (.op s) := nofun

theorem sound_word : Sound (.word w) := nofun

theorem sound_string {literal : StringToken} : Sound (.string literal) := nofun

theorem takes_cursor : cursor.Takes ks (fun c => c.tokens.map Token.kind = ks) ks :=
  fun c hc => ⟨c, c, reads_cursor_iff.2 ⟨rfl, rfl⟩, hc, hc⟩

theorem takes_peek (hk : Sound k) : peek.Takes (k :: ks) (fun t => t.kind = k) (k :: ks) := by
  refine takes_cursor.bind fun c hc => ?_
  obtain ⟨t, rest, hrest, rfl, rfl⟩ := List.map_eq_cons_iff.1 hc
  rw [hrest]
  dsimp only
  split
  · rename_i cause hcause
    exact absurd hcause (hk cause)
  · exact takes_pure rfl

theorem takes_advance : advance.Takes (k :: ks) (· = ()) ks := by
  rintro ⟨tokens, last⟩ hc
  obtain ⟨t, rest, rfl, rfl, rfl⟩ := List.map_eq_cons_iff.1 hc
  exact ⟨(), ⟨rest, _⟩, ⟨List.suffix_cons t rest, rfl⟩, rfl, rfl⟩

theorem takes_here (hk : Sound k) : here.Takes (k :: ks) (fun _ => True) (k :: ks) :=
  (takes_peek hk).bind fun _ _ => takes_pure trivial

theorem takes_lastEnd : lastEnd.Takes ks (fun _ => True) ks := takes_cursor.bind fun _ _ => takes_pure trivial

theorem takes_atOp (hk : Sound k) : (atOp s).Takes (k :: ks) (· = isOp s k) (k :: ks) :=
  (takes_peek hk).bind fun _ ht => takes_pure (ht ▸ rfl)

theorem takes_atWord (hk : Sound k) : (atWord w).Takes (k :: ks) (· = isWord w k) (k :: ks) :=
  (takes_peek hk).bind fun _ ht => takes_pure (ht ▸ rfl)

theorem takes_acceptOp : (acceptOp s).Takes (.op s :: ks) (· = true) ks := by
  refine (takes_atOp sound_op).then ?_
  rw [isOp_op, beq_self_eq_true, if_pos rfl]
  exact takes_advance.then (takes_pure rfl)

theorem takes_acceptOp_of_ne (hk : Sound k) (h : isOp s k = false) :
    (acceptOp s).Takes (k :: ks) (· = false) (k :: ks) := by
  refine (takes_atOp hk).then ?_
  rw [h, if_neg Bool.false_ne_true]
  exact takes_pure rfl

theorem takes_acceptWord : (acceptWord w).Takes (.word w :: ks) (· = true) ks := by
  refine (takes_atWord sound_word).then ?_
  rw [isWord_word, beq_self_eq_true, if_pos rfl]
  exact takes_advance.then (takes_pure rfl)

theorem takes_acceptWord_of_ne (hk : Sound k) (h : isWord w k = false) :
    (acceptWord w).Takes (k :: ks) (· = false) (k :: ks) := by
  refine (takes_atWord hk).then ?_
  rw [h, if_neg Bool.false_ne_true]
  exact takes_pure rfl

theorem takes_expectOp : (expectOp s).Takes (.op s :: ks) (· = ()) ks := by
  refine (takes_atOp sound_op).then ?_
  rw [isOp_op, beq_self_eq_true, if_pos rfl]
  exact takes_advance

theorem takes_name {n : String} (h : nameOf? (.word w) = some n) : name.Takes (.word w :: ks) (· = n) ks := by
  refine (takes_peek sound_word).bind fun t ht => ?_
  rw [ht, h]
  exact takes_advance.then (takes_pure rfl)

/-- No name comes next. -/
theorem takes_atNameThen_of_none (h : nameOf? k = none) :
    (atNameThen s).Takes (k :: ks) (· = false) (k :: ks) := by
  refine takes_cursor.bind fun c hc => ?_
  obtain ⟨t, rest, hrest, rfl, rfl⟩ := List.map_eq_cons_iff.1 hc
  rw [hrest]
  dsimp only
  rw [h, Option.isSome_none, if_neg Bool.false_ne_true]
  exact takes_pure rfl

/-- What is read ahead is left. -/
theorem Takes.ahead (h : r.Takes ks P ks') : (ahead r).Takes ks P ks := by
  intro c hc
  -- the reader has run on, but it is the cursor in front of it that counts
  obtain ⟨a, c', ⟨_, hrun⟩, ha, -⟩ := h c hc
  refine ⟨a, c, ⟨List.suffix_rfl, ?_⟩, ha, hc⟩
  simp only [Reader.ahead, hrun]
  rfl

theorem takes_atNameThen {n : String} (h : nameOf? k = some n) (hk' : Sound k') :
    (atNameThen s).Takes (k :: k' :: ks) (· = isOp s k') (k :: k' :: ks) := by
  refine takes_cursor.bind fun c hc => ?_
  obtain ⟨t, rest, hrest, rfl, -⟩ := List.map_eq_cons_iff.1 hc
  rw [hrest]
  dsimp only
  rw [h, Option.isSome_some, if_pos rfl]
  exact (takes_advance.then (takes_atOp hk')).ahead

/-! ## Choices -/

theorem Takes.takeOp (h : r.Takes ks P ks') :
    (do if ← acceptOp s then r else r').Takes (.op s :: ks) P ks' :=
  takes_acceptOp.then h

theorem Takes.skipOp (hk : Sound k) (hs : isOp s k = false) (h : r'.Takes (k :: ks) P ks') :
    (do if ← acceptOp s then r else r').Takes (k :: ks) P ks' :=
  (takes_acceptOp_of_ne hk hs).then h

theorem Takes.takeWord (h : r.Takes ks P ks') :
    (do if ← acceptWord w then r else r').Takes (.word w :: ks) P ks' :=
  takes_acceptWord.then h

theorem Takes.skipWord (hk : Sound k) (hw : isWord w k = false) (h : r'.Takes (k :: ks) P ks') :
    (do if ← acceptWord w then r else r').Takes (k :: ks) P ks' :=
  (takes_acceptWord_of_ne hk hw).then h

theorem takes_optional_none {mark : Reader Bool} (h : mark.Takes ks (· = false) ks) :
    (optional mark r).Takes ks (· = none) ks :=
  h.then (takes_pure rfl)

/-! ## Repetitions -/

theorem takes_many_nil {r : Reader (Option α)} (h : r.Takes ks (· = none) ks) (limit : Nat) :
    (many r limit).Takes ks (· = []) ks := by
  cases limit with
  | zero => exact takes_pure rfl
  | succ limit => exact h.then (takes_pure rfl)

/-- The items that follow commas are read one by one up to a token that is no comma. -/
theorem takes_moreItems {starts : TokenKind → Bool} {kinds : α → List TokenKind} (hk : Sound k)
    (hend : isOp "," k = false) {limit : Nat} {as : List α} (hlimit : as.length ≤ limit)
    (hstart : ∀ a ∈ as, ∃ k ks, kinds a = k :: ks ∧ Sound k ∧ starts k = true)
    (hitem : ∀ a ∈ as, ∀ k' ks', k' = .op "," ∨ k' = k → r.Takes (kinds a ++ k' :: ks') (· = a) (k' :: ks')) :
    (moreItems starts r limit).Takes (as.flatMap (fun a => .op "," :: kinds a) ++ k :: ks) (· = as) (k :: ks) := by
  unfold moreItems
  induction as generalizing limit with
  | nil => exact takes_many_nil (.skipOp hk hend (takes_pure rfl)) limit
  | cons a as ih =>
    rw [List.forall_mem_cons] at hstart hitem
    obtain ⟨limit, rfl⟩ := Nat.exists_eq_add_of_le' (Nat.lt_of_lt_of_le (Nat.succ_pos _) hlimit)
    obtain ⟨k₀, ks₀, hkinds, hk₀, hstarts⟩ := hstart.1
    have hmore := ih (Nat.le_of_succ_le_succ hlimit) hstart.2 hitem.2
    -- what follows the first item is the comma in front of the next one, or the end
    have hfollow : ∃ k' ks', as.flatMap (fun a => .op "," :: kinds a) ++ k :: ks = k' :: ks' ∧
        (k' = .op "," ∨ k' = k) := by
      cases as with
      | nil => exact ⟨_, _, rfl, .inr rfl⟩
      | cons => exact ⟨_, _, rfl, .inl rfl⟩
    obtain ⟨k', ks', hrest, hk'⟩ := hfollow
    have hread := hitem.1 k' ks' hk'
    rw [List.flatMap_cons, List.cons_append, List.cons_append, List.append_assoc, hrest]
    rw [hrest] at hmore
    refine Takes.then (a := some a) (.takeOp ?_) (hmore.then (takes_pure rfl))
    rw [hkinds] at hread ⊢
    refine (takes_peek hk₀).bind fun t ht => ?_
    rw [ht, hstarts, if_pos rfl]
    exact hread.then (takes_pure rfl)

end Crosswalk.Reader

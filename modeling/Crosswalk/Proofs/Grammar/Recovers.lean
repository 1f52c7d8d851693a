import Crosswalk.Proofs.Grammar.Generated
import Crosswalk.Proofs.Grammar.Operand

/-!
# Reading generated expressions

A generated expression is read from its tokens as what it is, whatever closes it, by a grammar with as many levels of
nesting as it has and a bound no less than the number of its tokens: `Expr.Generated.recovers`.
-/

namespace Crosswalk

open Token (Bracket listed)

namespace IsPlainName

variable {n : String} (h : IsPlainName n)
include h

theorem nameOf?_eq : Reader.nameOf? (.word n) = some n := by
  have hnot : Text.reservedWords.contains n = false := by
    rw [Bool.eq_false_iff, ne_eq, List.contains_iff_mem]
    exact h.not_mem_reservedWords
  simp only [Reader.nameOf?, hnot, h.normal, Bool.false_eq_true, if_false]

theorem opens : Grammar.Opens (.word n) := .word h.not_mem_reservedWords

end IsPlainName

namespace Grammar

open Reader

variable {g : Grammar} {e : Expr} {k k' : TokenKind} {ks ks' : List TokenKind} {limit : Nat}

/-! ## Atoms and attributes -/

theorem takes_atom_name {n : String} (hn : IsPlainName n) : (atom g).Takes (.word n :: ks) (· = .name n) ks := by
  have hconstant : constantWord? n = none := by
    have := hn.not_mem_reservedWords
    unfold constantWord?
    split <;> first | rfl | simp [Text.reservedWords] at this
  refine (takes_peek sound_word).bind fun t ht => ?_
  rw [ht]
  dsimp only
  rw [hconstant]
  exact (takes_name hn.nameOf?_eq).then (takes_pure rfl)

/-- The value of a quoted text is the text. -/
theorem stringValue_ofQuoted (t : Text) :
    stringValue g [⟨false, false, false, false, Text.quotedBody (Text.quoteFor t) t⟩] = some (.str t) := by
  have hvalue : Interpolation.literalValue false (Text.quotedBody (Text.quoteFor t) t) = some t :=
    Escape.decode_quotedBody (Text.isQuote_quoteFor t) t
  have hliteral : literalText (Interpolation.join (Interpolation.addLiteral t []) []) = t := by
    unfold Interpolation.addLiteral
    cases t <;> simp [Interpolation.join, Interpolation.addLiteral, literalText]
  simp [stringValue, stringPieces, hvalue, hliteral, Expr.str]

theorem takes_stringToken (literal : StringToken) :
    stringToken.Takes (.string literal :: ks) (· = some literal) ks := by
  refine (takes_peek sound_string).bind fun t ht => ?_
  rw [ht]
  exact takes_advance.then (takes_pure rfl)

theorem takes_stringToken_none (hk : Closes k) : stringToken.Takes (k :: ks) (· = none) (k :: ks) := by
  refine (takes_peek hk.sound).bind fun t ht => ?_
  rw [ht]
  cases hk <;> exact takes_pure rfl

theorem takes_atom_str (t : Text) (hlimit : 0 < g.limit) (hk : Closes k) :
    (atom g).Takes (Token.ofQuoted t :: k :: ks) (· = .str t) (k :: ks) := by
  have hstrings : (many stringToken g.limit).Takes (Token.ofQuoted t :: k :: ks)
      (· = [⟨false, false, false, false, Text.quotedBody (Text.quoteFor t) t⟩]) (k :: ks) := by
    -- adjacent strings are one value, but behind this one there is none
    obtain ⟨limit, hlimit⟩ := Nat.exists_eq_add_of_lt hlimit
    rw [hlimit]
    exact (takes_stringToken _).then ((takes_many_nil (takes_stringToken_none hk) _).then (takes_pure rfl))
  refine (takes_peek sound_string).bind fun token htoken => ?_
  rw [htoken]
  refine hstrings.then ?_
  rw [stringValue_ofQuoted]
  exact takes_pure rfl

theorem takes_trailers_nil (hk : Closes k) : (trailers g limit e).Takes (k :: ks) (· = e) (k :: ks) := by
  cases limit with
  | zero => exact takes_pure rfl
  | succ limit =>
    exact .skipOp hk.sound (hk.isOp (by decide)) (.skipOp hk.sound (hk.isOp (by decide))
      (.skipOp hk.sound (hk.isOp (by decide)) (takes_pure rfl)))

theorem takes_trailers_attributes {P : Expr → Prop} {attributes : List String}
    (hplain : ∀ a ∈ attributes, IsPlainName a)
    (h : (trailers g limit (attributes.foldl .attribute e)).Takes ks P ks') :
    (trailers g (limit + attributes.length) e).Takes
      ((attributes.flatMap fun a => [.op ".", .word a]) ++ ks) P ks' := by
  induction attributes generalizing e with
  | nil => exact h
  | cons a attributes ih =>
    rw [List.forall_mem_cons] at hplain
    exact .takeOp ((takes_name hplain.1.nameOf?_eq).then (ih hplain.2 h))

/-- A dotted name is read up to what comes behind its last attribute. -/
theorem takes_primaryRule {P : Expr → Prop} {d : DottedName} (hd : d.IsPlain)
    (hlimit : g.limit = limit + d.attributes.length) (h : (trailers g limit d.toExpr).Takes ks P ks') :
    (primaryRule g).Takes (d.toExpr.kinds ++ ks) P ks' := by
  obtain ⟨hroot, hattributes⟩ := List.forall_mem_cons.1 hd
  rw [kinds_toExpr, List.cons_append]
  refine (takes_atom_name hroot).then ?_
  rw [hlimit]
  exact takes_trailers_attributes hattributes h

/-! ## First tokens -/

theorem isOp_eq_false_of_generated {n : Nat} (h : e.Generated n) :
    ∃ k ks, e.kinds = k :: ks ∧ Sound k ∧ ∀ s, s ≠ "\x7b" → isOp s k = false := by
  have htoExpr (d : DottedName) (ks : List TokenKind) : ∃ k ks', d.toExpr.kinds ++ ks = k :: ks' ∧ Sound k ∧
      ∀ s, s ≠ "\x7b" → isOp s k = false := by
    rw [kinds_toExpr]
    exact ⟨_, _, rfl, sound_word, fun _ _ => rfl⟩
  cases h with
  | @name n d hd =>
    rw [← List.append_nil d.toExpr.kinds]
    exact htoExpr d []
  | str t => exact ⟨_, _, rfl, sound_string, fun _ _ => rfl⟩
  | item hd t =>
    rw [Expr.item, Expr.kinds]
    exact htoExpr _ _
  | call =>
    rw [Expr.kinds]
    exact htoExpr _ _
  | dict =>
    rw [Expr.kinds]
    exact ⟨_, _, rfl, sound_op, fun s hs => beq_eq_false_iff_ne.2 hs.symm⟩
  | function =>
    rw [Expr.function, Expr.kinds]
    exact ⟨_, _, rfl, sound_word, fun _ _ => rfl⟩

theorem kinds_ne_nil_of_generated {n : Nat} (h : e.Generated n) : e.kinds ≠ [] := by
  obtain ⟨k, ks, hkinds, -⟩ := isOp_eq_false_of_generated h
  exact hkinds ▸ List.cons_ne_nil k ks

/-- Behind a dotted name that goes on with something else than the operator there is not the operator. -/
theorem takes_atNameThen_toExpr {d : DottedName} {s : String} (hd : d.IsPlain) (hdot : s ≠ ".") (hk : Sound k)
    (hs : isOp s k = false) :
    (atNameThen s).Takes (d.toExpr.kinds ++ k :: ks) (· = false) (d.toExpr.kinds ++ k :: ks) := by
  have hroot := (hd d.root List.mem_cons_self).nameOf?_eq
  rw [kinds_toExpr]
  cases d.attributes with
  | nil =>
    rw [← hs]
    exact takes_atNameThen hroot hk
  | cons a attributes =>
    rw [← beq_eq_false_iff_ne.2 hdot.symm]
    exact takes_atNameThen hroot sound_op

/-- A generated expression is not taken for one that is given a name, nor for an argument given by name. -/
theorem takes_atNameThen_of_generated {n : Nat} (h : e.Generated n) (hk : Closes k) (ks : List TokenKind) {s : String}
    (hs : s = "=" ∨ s = ":=") :
    (atNameThen s).Takes (e.kinds ++ k :: ks) (· = false) (e.kinds ++ k :: ks) := by
  have hdot : s ≠ "." := by rcases hs with rfl | rfl <;> decide
  cases h with
  | name hd =>
    refine takes_atNameThen_toExpr hd hdot hk.sound (hk.isOp ?_)
    rcases hs with rfl | rfl <;> decide
  | str t => exact takes_atNameThen_of_none rfl
  | item hd t =>
    rw [Expr.item, Expr.kinds, List.append_assoc]
    refine takes_atNameThen_toExpr hd hdot sound_op ?_
    rcases hs with rfl | rfl <;> rfl
  | call hd =>
    rw [Expr.kinds, List.append_assoc]
    refine takes_atNameThen_toExpr hd hdot sound_op ?_
    rcases hs with rfl | rfl <;> rfl
  | dict =>
    rw [Expr.kinds]
    exact takes_atNameThen_of_none rfl
  | function =>
    rw [Expr.function, Expr.kinds]
    exact takes_atNameThen_of_none rfl

/-! ## What stands in brackets -/

/-- The grammar reads the expression from its tokens, whatever closes it. -/
def Recovers (g : Grammar) (e : Expr) : Prop :=
  ∀ k ks, Closes k → g.expression.Takes (e.kinds ++ k :: ks) (· = e) (k :: ks)

theorem takes_subscript {t : Text} (h : g.Recovers (.str t)) (ks : List TokenKind) :
    (subscript g).Takes (Token.ofQuoted t :: .op "]" :: ks) (· = .str t) ks := by
  have hlower : (some <$> namedOr g g.expression).Takes (Token.ofQuoted t :: .op "]" :: ks) (· = some (.str t))
      (.op "]" :: ks) :=
    (((takes_atNameThen_of_none rfl).then (h _ ks .square)).then (takes_pure rfl))
  have hslice : (slice g).Takes (Token.ofQuoted t :: .op "]" :: ks) (· = .str t) (.op "]" :: ks) := by
    refine (takes_atNameThen_of_none rfl).then ((takes_atOp sound_string).then ?_)
    rw [isOp_string, if_neg Bool.false_ne_true]
    refine hlower.then ((takes_acceptOp_of_ne sound_op rfl).then ?_)
    exact takes_pure rfl
  have hstarred : (starredSlice g).Takes (Token.ofQuoted t :: .op "]" :: ks) (· = .str t) (.op "]" :: ks) :=
    .skipOp sound_string rfl hslice
  have hindex : (pure (.str t) : Reader Expr).Takes (.op "]" :: ks) (· = .str t) (.op "]" :: ks) := takes_pure rfl
  exact hstarred.then ((takes_atOp sound_op).then (hindex.then (takes_expectOp.then (takes_pure rfl))))

/-- Behind the items of a list stands what closes each of them. -/
theorem exists_closes (hk : Closes k) (items : List (List TokenKind)) (ks : List TokenKind) :
    ∃ k' ks', items.flatMap (.op "," :: ·) ++ k :: ks = k' :: ks' ∧ Closes k' := by
  cases items with
  | nil => exact ⟨k, ks, rfl, hk⟩
  | cons => exact ⟨_, _, rfl, .comma⟩

/-- What follows an argument of a call. -/
def argumentsRest (g : Grammar) (stage : ArgumentStage) (limit : Nat) : Reader (List Expr × List Keyword) := do
  if ← acceptOp "," then argumentsFrom g false stage limit
  else
    expectOp ")"
    return ([], [])

variable {arguments : List Expr} {keywords : List Keyword} {stage : ArgumentStage} {mayGenerate : Bool}

theorem takes_argumentsFrom_keyword {kw : Keyword} (hplain : kw.IsPlain) (h : g.Recovers kw.value) (hk : Closes k)
    (hrest : ∀ stage, (argumentsRest g stage limit).Takes (k :: ks) (· = (arguments, keywords)) ks') :
    (argumentsFrom g mayGenerate stage (limit + 1)).Takes (kw.kinds ++ k :: ks)
      (· = (arguments, kw :: keywords)) ks' := by
  rw [argumentsFrom]
  cases kw with
  | named name value =>
    rw [Keyword.kinds]
    -- no star stands here, but a name with an equals sign behind it
    refine .skipOp sound_word rfl (.skipOp sound_word rfl ((takes_atNameThen hplain.nameOf?_eq sound_op).then ?_))
    refine (takes_name hplain.nameOf?_eq).then (takes_expectOp.then ((h k ks hk).then ?_))
    exact (hrest _).then (takes_pure rfl)
  | spread value =>
    rw [Keyword.kinds]
    exact .skipOp sound_op rfl (.takeOp ((h k ks hk).then ((hrest _).then (takes_pure rfl))))

theorem takes_argumentsFrom_positional {n : Nat} (he : e.Generated n) (h : g.Recovers e) (hk : Closes k)
    (hrest : (argumentsRest g .positional limit).Takes (k :: ks) (· = (arguments, keywords)) ks') :
    (argumentsFrom g mayGenerate .positional (limit + 1)).Takes (e.kinds ++ k :: ks)
      (· = (e :: arguments, keywords)) ks' := by
  have hnamed := takes_atNameThen_of_generated he hk ks (.inl rfl)
  have hvalue : (namedOr g g.expression).Takes (e.kinds ++ k :: ks) (· = e) (k :: ks) :=
    (takes_atNameThen_of_generated he hk ks (.inr rfl)).then (h k ks hk)
  obtain ⟨k₀, ks₀, hkinds, hk₀, hops⟩ := isOp_eq_false_of_generated he
  rw [argumentsFrom]
  rw [hkinds] at hnamed hvalue ⊢
  refine .skipOp hk₀ (hops _ (by decide)) (.skipOp hk₀ (hops _ (by decide)) (hnamed.then ?_))
  refine (takes_acceptOp_of_ne hk₀ (hops _ (by decide))).then ?_
  refine hvalue.then ((takes_atClause hk).then ?_)
  rw [Bool.and_false]
  exact hrest.then (takes_pure rfl)

theorem takes_argumentsRest_nil :
    (argumentsRest g stage limit).Takes (.op ")" :: ks) (· = ([], [])) ks :=
  .skipOp sound_op rfl (takes_expectOp.then (takes_pure rfl))

/-- The arguments given by name behind another argument are read one by one. -/
theorem takes_argumentsRest_keywords (hlimit : keywords.length ≤ limit) (hplain : ∀ kw ∈ keywords, kw.IsPlain)
    (h : ∀ kw ∈ keywords, g.Recovers kw.value) :
    (argumentsRest g stage limit).Takes (((keywordsKinds keywords).flatMap (.op "," :: ·)) ++ .op ")" :: ks)
      (· = ([], keywords)) ks := by
  induction keywords generalizing stage limit with
  | nil =>
    rw [keywordsKinds]
    exact takes_argumentsRest_nil
  | cons kw keywords ih =>
    rw [List.forall_mem_cons] at hplain h
    rw [List.length_cons] at hlimit
    obtain ⟨limit, rfl⟩ := Nat.exists_eq_add_of_le' (show 1 ≤ limit by omega)
    have hrest (stage : ArgumentStage) : (argumentsRest g stage limit).Takes _ _ ks :=
      ih (by omega) hplain.2 h.2
    obtain ⟨k, ks', hks, hk⟩ := exists_closes .round (keywordsKinds keywords) ks
    rw [keywordsKinds, List.flatMap_cons, List.append_assoc, hks]
    rw [hks] at hrest
    exact .takeOp (takes_argumentsFrom_keyword hplain.1 h.1 hk hrest)

/-- The arguments behind another are read one by one, first those without a name. -/
theorem takes_argumentsRest {n : Nat} (hlimit : arguments.length + keywords.length ≤ limit)
    (hgenerated : ∀ e ∈ arguments, e.Generated n) (hplain : ∀ kw ∈ keywords, kw.IsPlain)
    (harguments : ∀ e ∈ arguments, g.Recovers e) (hkeywords : ∀ kw ∈ keywords, g.Recovers kw.value) :
    (argumentsRest g .positional limit).Takes
      (((kindsEach arguments ++ keywordsKinds keywords).flatMap (.op "," :: ·)) ++ .op ")" :: ks)
      (· = (arguments, keywords)) ks := by
  induction arguments generalizing limit with
  | nil =>
    rw [kindsEach, List.nil_append]
    exact takes_argumentsRest_keywords (by simpa using hlimit) hplain hkeywords
  | cons e arguments ih =>
    rw [List.forall_mem_cons] at hgenerated harguments
    rw [List.length_cons] at hlimit
    obtain ⟨limit, rfl⟩ := Nat.exists_eq_add_of_le' (show 1 ≤ limit by omega)
    have hrest : (argumentsRest g .positional limit).Takes _ _ ks := ih (by omega) hgenerated.2 harguments.2
    obtain ⟨k, ks', hks, hk⟩ := exists_closes .round (kindsEach arguments ++ keywordsKinds keywords) ks
    rw [kindsEach, List.cons_append, List.flatMap_cons, List.append_assoc, hks]
    rw [hks] at hrest
    exact .takeOp (takes_argumentsFrom_positional hgenerated.1 harguments.1 hk hrest)

/-- All arguments of a call are read, up to the closing parenthesis. -/
theorem takes_argumentsFrom {n : Nat} (hne : arguments ≠ [] ∨ keywords ≠ [])
    (hlimit : arguments.length + keywords.length ≤ limit)
    (hgenerated : ∀ e ∈ arguments, e.Generated n) (hplain : ∀ kw ∈ keywords, kw.IsPlain)
    (harguments : ∀ e ∈ arguments, g.Recovers e) (hkeywords : ∀ kw ∈ keywords, g.Recovers kw.value) :
    (argumentsFrom g mayGenerate .positional limit).Takes
      (listed (kindsEach arguments ++ keywordsKinds keywords) ++ .op ")" :: ks) (· = (arguments, keywords)) ks := by
  cases arguments with
  | cons e arguments =>
    rw [List.forall_mem_cons] at hgenerated harguments
    rw [List.length_cons] at hlimit
    obtain ⟨limit, rfl⟩ := Nat.exists_eq_add_of_le' (show 1 ≤ limit by omega)
    have hrest : (argumentsRest g .positional limit).Takes _ _ ks :=
      takes_argumentsRest (by omega) hgenerated.2 hplain harguments.2 hkeywords
    obtain ⟨k, ks', hks, hk⟩ := exists_closes .round (kindsEach arguments ++ keywordsKinds keywords) ks
    rw [kindsEach, List.cons_append, listed, List.append_assoc, hks]
    rw [hks] at hrest
    exact takes_argumentsFrom_positional hgenerated.1 harguments.1 hk hrest
  | nil =>
    cases keywords with
    | nil => simp at hne
    | cons kw keywords =>
      rw [List.forall_mem_cons] at hplain hkeywords
      rw [List.length_cons] at hlimit
      obtain ⟨limit, rfl⟩ := Nat.exists_eq_add_of_le' (show 1 ≤ limit by omega)
      have hrest (stage : ArgumentStage) : (argumentsRest g stage limit).Takes _ _ ks :=
        takes_argumentsRest_keywords (by omega) hplain.2 hkeywords.2
      obtain ⟨k, ks', hks, hk⟩ := exists_closes .round (keywordsKinds keywords) ks
      rw [kindsEach, List.nil_append, keywordsKinds, listed, List.append_assoc, hks]
      rw [hks] at hrest
      exact takes_argumentsFrom_keyword hplain.1 hkeywords.1 hk hrest

theorem takes_entry {entry : Entry} (hkeyed : entry.IsKeyed) (hkeys : ∀ t, g.Recovers (.str t))
    (h : g.Recovers entry.value) (hk : Closes k) :
    (Grammar.entry g).Takes (entry.kinds ++ k :: ks) (· = entry) (k :: ks) := by
  obtain ⟨t, ht⟩ := hkeyed
  have hkinds : entry.kinds ++ k :: ks = Token.ofQuoted t :: .op ":" :: (entry.value.kinds ++ k :: ks) := by
    rw [ht, Entry.kinds]
    rfl
  rw [hkinds]
  refine .skipOp sound_string rfl ((hkeys t _ _ .colon).then (takes_expectOp.then ((h k ks hk).then ?_)))
  exact takes_pure ht.symm

/-- The items of a dict are read one by one, the first in another way than those behind it. -/
theorem takes_braces {entries : List Entry} (hne : entries ≠ []) (hlimit : entries.length ≤ g.limit)
    (hkeyed : ∀ e ∈ entries, e.IsKeyed) (hkeys : ∀ t, g.Recovers (.str t)) (h : ∀ e ∈ entries, g.Recovers e.value) :
    (braces g).Takes (listed (entriesKinds entries) ++ .op "\x7d" :: ks) (· = .dict entries) ks := by
  cases entries with
  | nil => exact absurd rfl hne
  | cons first entries =>
    rw [List.forall_mem_cons] at hkeyed h
    obtain ⟨t, ht⟩ := hkeyed.1
    have hmore : (moreItems startsEntry (entry g) g.limit).Takes
        (entries.flatMap (fun e => .op "," :: e.kinds) ++ .op "\x7d" :: ks) (· = entries) (.op "\x7d" :: ks) := by
      refine takes_moreItems sound_op rfl (Nat.le_of_succ_le hlimit) (fun e he => ?_) fun e he k' ks' hk' => ?_
      · obtain ⟨t, ht⟩ := hkeyed.2 e he
        rw [ht, Entry.kinds]
        exact ⟨_, _, rfl, sound_string, rfl⟩
      · have hclosing : Closes k' := by
          rcases hk' with rfl | rfl
          · exact .comma
          · exact .curly
        exact takes_entry (hkeyed.2 e he) hkeys (h.2 e he) hclosing
    have hafter : (dictAfter g first).Takes (entries.flatMap (fun e => .op "," :: e.kinds) ++ .op "\x7d" :: ks)
        (· = .dict (first :: entries)) ks :=
      hmore.then (takes_expectOp.then (takes_pure rfl))
    have hkinds : listed (entriesKinds (first :: entries)) ++ .op "\x7d" :: ks = Token.ofQuoted t :: .op ":" ::
        (first.value.kinds ++ (entries.flatMap (fun e => .op "," :: e.kinds) ++ .op "\x7d" :: ks)) := by
      rw [entriesKinds, entriesKinds_eq_map, listed, List.flatMap_map, ht, Entry.kinds]
      simp [Entry.value, Expr.str, Expr.kinds]
    obtain ⟨k, ks', hks, hk⟩ := exists_closes .curly (entries.map Entry.kinds) ks
    rw [List.flatMap_map] at hks
    have hfirst := h.1 k ks' hk
    rw [hkinds]
    rw [hks] at hafter ⊢
    -- the first key is read as if it were an element of a set, until the colon shows
    have hitem : (item g).Takes (Token.ofQuoted t :: .op ":" :: (first.value.kinds ++ k :: ks')) (· = .str t)
        (.op ":" :: (first.value.kinds ++ k :: ks')) :=
      .skipOp sound_string rfl ((takes_atNameThen_of_none rfl).then (hkeys t _ _ .colon))
    refine .skipOp sound_string rfl ((takes_atOp sound_string).then ?_)
    refine (takes_atNameThen_of_none rfl).then (hitem.then (takes_acceptOp.then ?_))
    refine hfirst.then ((takes_atClause hk).then ?_)
    rw [← ht]
    exact hafter

theorem takes_lambda {param : String} {body : Expr} (hparam : IsPlainName param) (h : g.Recovers body) (hk : Closes k) :
    (lambda g).Takes (.word param :: .op ":" :: (body.kinds ++ k :: ks)) (· = .function param body) (k :: ks) := by
  have hnote (ks : List TokenKind) : (note false g.expression).Takes ks (· = none) ks := takes_pure rfl
  have hitem : (paramItem g false g.expression).Takes (.word param :: .op ":" :: (body.kinds ++ k :: ks))
      (· = .plain param none none) (.op ":" :: (body.kinds ++ k :: ks)) := by
    refine .skipOp sound_word rfl (.skipOp sound_word rfl (.skipOp sound_word rfl ?_))
    refine (takes_name hparam.nameOf?_eq).then ((hnote _).then ?_)
    exact (takes_optional_none (takes_acceptOp_of_ne sound_op rfl)).then (takes_pure rfl)
  have hmore : (moreItems startsParam (paramItem g false g.expression) g.limit).Takes
      (.op ":" :: (body.kinds ++ k :: ks)) (· = []) (.op ":" :: (body.kinds ++ k :: ks)) :=
    takes_many_nil (.skipOp sound_op rfl (takes_pure rfl)) _
  have hparams : (params g false g.expression).Takes (.word param :: .op ":" :: (body.kinds ++ k :: ks))
      (· = [.mk .positional param none none]) (.op ":" :: (body.kinds ++ k :: ks)) := by
    have hstarts : startsParam (.word param) = true := by simp [startsParam, hparam.nameOf?_eq]
    refine (takes_peek sound_word).bind fun t ht => ?_
    rw [ht, if_pos hstarts]
    exact hitem.then (hmore.then (takes_pure rfl))
  exact hparams.then (takes_expectOp.then ((h k ks hk).then (takes_pure rfl)))

/-! ## Whole expressions -/

@[simp] theorem limit_levels (limit n : Nat) : (levels limit n).limit = limit := by
  induction n with
  | zero => rfl
  | succ n ih => exact ih

/-- What begins with a dotted name is a whole expression if it is read as a primary and closed. -/
theorem takes_full_toExpr {d : DottedName}
    (hd : d.IsPlain) (hk : Closes k) (h : (primaryRule g).Takes (d.toExpr.kinds ++ ks) (· = e) (k :: ks')) :
    (expressionRule g).Takes (d.toExpr.kinds ++ ks) (· = e) (k :: ks') := by
  have hopens := (hd d.root List.mem_cons_self).opens
  rw [kinds_toExpr] at h ⊢
  exact takes_full hopens hk h

variable {n limit : Nat} {d : DottedName}

theorem recovers_toExpr (hd : d.IsPlain) (hlimit : d.toExpr.kinds.length ≤ limit) :
    (levels limit (n + 1)).Recovers d.toExpr := by
  intro k ks hk
  rw [length_kinds_toExpr] at hlimit
  obtain ⟨rest, hrest⟩ := Nat.exists_eq_add_of_le' (show d.attributes.length ≤ limit by omega)
  exact takes_full_toExpr hd hk (takes_primaryRule hd ((limit_levels _ _).trans hrest) (takes_trailers_nil hk))

theorem recovers_str (hlimit : 0 < limit) (t : Text) : (levels limit (n + 1)).Recovers (.str t) := by
  intro k ks hk
  have hlimit : 0 < (levels limit n).limit := by rwa [limit_levels]
  exact takes_full (.string _) hk ((takes_atom_str t hlimit hk).then (takes_trailers_nil hk))

theorem exists_limit (hlimit : d.attributes.length + 1 ≤ limit) (n : Nat) :
    ∃ rest, (levels limit n).limit = rest + 1 + d.attributes.length := by
  obtain ⟨rest, hrest⟩ := Nat.exists_eq_add_of_le' hlimit
  exact ⟨rest, by rw [limit_levels, hrest, Nat.add_assoc, Nat.add_comm 1]⟩

theorem recovers_item (hd : d.IsPlain) (t : Text) (hlimit : (Expr.item d.toExpr t).kinds.length ≤ limit) :
    (levels limit (n + 2)).Recovers (.item d.toExpr t) := by
  intro k ks hk
  rw [Expr.item, Expr.kinds, List.length_append, length_kinds_toExpr, Bracket.length_kinds] at hlimit
  obtain ⟨rest, hrest⟩ := exists_limit (show d.attributes.length + 1 ≤ limit by omega) (n + 1)
  have hstr : (levels limit (n + 1)).Recovers (.str t) := recovers_str (by omega) t
  have hsubscript := takes_subscript hstr (k :: ks)
  rw [Expr.item, Expr.kinds, List.append_assoc]
  refine takes_full_toExpr hd hk (takes_primaryRule hd hrest ?_)
  exact .skipOp sound_op rfl (.skipOp sound_op rfl (.takeOp (hsubscript.then (takes_trailers_nil hk))))

theorem recovers_call (hd : d.IsPlain) (hne : arguments ≠ [] ∨ keywords ≠ []) (hplain : ∀ kw ∈ keywords, kw.IsPlain)
    (hgenerated : ∀ e ∈ arguments, e.Generated n)
    (hlimit : (Expr.call d.toExpr arguments keywords).kinds.length ≤ limit)
    (harguments : ∀ e ∈ arguments, e.kinds.length ≤ limit → (levels limit n).Recovers e)
    (hkeywords : ∀ kw ∈ keywords, kw.value.kinds.length ≤ limit → (levels limit n).Recovers kw.value) :
    (levels limit (n + 1)).Recovers (.call d.toExpr arguments keywords) := by
  intro k ks hk
  rw [Expr.kinds, List.length_append, length_kinds_toExpr, Bracket.length_kinds, kindsEach_eq_map,
    keywordsKinds_eq_map] at hlimit
  have hmem {ks : List TokenKind} (h : ks ∈ arguments.map Expr.kinds ++ keywords.map Keyword.kinds) :
      ks.length ≤ limit := by
    have := Token.length_le_of_mem_listed h
    omega
  -- each argument has a token, so the bound is also one on their number
  have hcount : arguments.length + keywords.length ≤ limit := by
    have hne : ∀ ks ∈ arguments.map Expr.kinds ++ keywords.map Keyword.kinds, ks ≠ [] := by
      simp only [List.forall_mem_append, List.forall_mem_map]
      exact ⟨fun e he => kinds_ne_nil_of_generated (hgenerated e he), fun kw _ => by cases kw <;> simp [Keyword.kinds]⟩
    have := Token.length_le_length_listed hne
    rw [List.length_append, List.length_map, List.length_map] at this
    omega
  have hread : (Grammar.arguments (levels limit n) true).Takes
      (listed (kindsEach arguments ++ keywordsKinds keywords) ++ .op ")" :: (k :: ks)) (· = (arguments, keywords))
      (k :: ks) := by
    rw [Grammar.arguments, limit_levels]
    refine takes_argumentsFrom hne hcount hgenerated hplain (fun e he => harguments e he ?_)
      fun kw hkw => hkeywords kw hkw ?_
    · exact hmem (List.mem_append_left _ (List.mem_map_of_mem he))
    · have := hmem (List.mem_append_right _ (List.mem_map_of_mem hkw))
      cases kw <;> simp only [Keyword.kinds, Keyword.value, List.length_cons] at this ⊢ <;> omega
  obtain ⟨rest, hrest⟩ := exists_limit (show d.attributes.length + 1 ≤ limit by omega) n
  rw [Expr.kinds, List.append_assoc, Bracket.kinds_append]
  refine takes_full_toExpr hd hk (takes_primaryRule hd hrest ?_)
  exact .skipOp sound_op rfl (.takeOp (hread.then (takes_trailers_nil hk)))

theorem recovers_dict {entries : List Entry} (hne : entries ≠ []) (hkeyed : ∀ e ∈ entries, e.IsKeyed)
    (hlimit : (Expr.dict entries).kinds.length ≤ limit)
    (h : ∀ e ∈ entries, e.value.kinds.length ≤ limit → (levels limit (n + 1)).Recovers e.value) :
    (levels limit (n + 2)).Recovers (.dict entries) := by
  intro k ks hk
  rw [Expr.kinds, Bracket.length_kinds, entriesKinds_eq_map] at hlimit
  have hmem {e : Entry} (he : e ∈ entries) : e.value.kinds.length ≤ limit := by
    have := Token.length_le_of_mem_listed (List.mem_map_of_mem (f := Entry.kinds) he)
    obtain ⟨t, ht⟩ := hkeyed e he
    rw [ht, Entry.kinds, List.length_append, List.length_cons] at this
    omega
  have hcount : entries.length ≤ (levels limit (n + 1)).limit := by
    have hne : ∀ ks ∈ entries.map Entry.kinds, ks ≠ [] := by
      rw [List.forall_mem_map]
      exact fun e _ => by cases e <;> simp [Entry.kinds]
    have := Token.length_le_length_listed hne
    rw [List.length_map] at this
    rw [limit_levels]
    omega
  have hread : (braces (levels limit (n + 1))).Takes (listed (entriesKinds entries) ++ .op "\x7d" :: (k :: ks))
      (· = .dict entries) (k :: ks) :=
    takes_braces hne hcount hkeyed (recovers_str (by omega)) fun e he => h e he (hmem he)
  rw [Expr.kinds, Bracket.kinds_append]
  refine takes_full .brace hk (Takes.then ?_ (takes_trailers_nil hk))
  refine (takes_peek sound_op).bind fun t ht => ?_
  rw [ht]
  exact takes_advance.then hread

theorem recovers_function {param : String} {body : Expr} (hparam : IsPlainName param)
    (h : (levels limit n).Recovers body) : (levels limit (n + 1)).Recovers (.function param body) := by
  intro k ks hk
  rw [Expr.function, Expr.kinds]
  exact .takeWord (takes_lambda hparam h hk)

end Grammar

/-- A generated expression is read from its tokens, whatever closes it. -/
theorem Expr.Generated.recovers {n limit : Nat} {e : Expr} (h : e.Generated n) (hlimit : e.kinds.length ≤ limit) :
    (Grammar.levels limit n).Recovers e := by
  induction h with
  | name hd => exact Grammar.recovers_toExpr hd hlimit
  | str t => exact Grammar.recovers_str hlimit t
  | item hd t => exact Grammar.recovers_item hd t hlimit
  | call hd hne hplain hgenerated _ ih ih' => exact Grammar.recovers_call hd hne hplain hgenerated hlimit ih ih'
  | dict hne hkeyed _ ih => exact Grammar.recovers_dict hne hkeyed hlimit ih
  | function hparam _ ih =>
    refine Grammar.recovers_function hparam (ih ?_)
    rw [Expr.function, Expr.kinds] at hlimit
    simp only [List.length_cons] at hlimit
    omega

end Crosswalk

import Crosswalk.Proofs.Session.History
import Crosswalk.Proofs.Tree.Seat

/-!
# Reading back what was written

Writing appends to the seed table all that was taken up so far, also what an earlier write has appended before.
Read anew, the seed table gives each key once all the same: a key stands where it first came, and what is
appended again has the value that it had. So the table that is read is the one of the last write:
`locate_run`.
-/

namespace Crosswalk
namespace Session

/-- The seed table of the name, read anew, gives the functions from A to B that are in the table. -/
def ReadsAs (name : String) (t : Tree) (table : Table Text Expr) : Prop :=
  ∃ seed pairs, t.seedTable? name = some seed ∧ Registry.literalPairs seed.entries = some pairs ∧
    Table.ofPairs pairs = table

variable {name : String} {seat : Place} {s : Session} {seed table : Table Text Expr}

/-! ## The tree in a session -/

/-- Only a request to write changes the tree. -/
theorem tree_step {q : Request} (hq : q ≠ .write) : (s.step seat q).2.tree = s.tree := by
  cases q with
  | add c => rcases s.step_add seat c with ⟨-, h⟩ | ⟨-, -, h⟩ | ⟨-, -, h⟩ <;> rw [h]
  | write => exact absurd rfl hq
  | lookup | lookupB | contains | size | tags => rfl

theorem tree_run {requests : List Request} (h : .write ∉ requests) : (s.run seat requests).tree = s.tree := by
  induction requests generalizing s with
  | nil => rfl
  | cons q rest ih =>
    simp only [List.mem_cons, not_or] at h
    rw [run_cons, ih h.2, tree_step (Ne.symm h.1)]

/-- The place of the seed table stays the same, whatever is written to it. -/
theorem isSeat_run (requests : List Request) (h : IsSeat name s.tree seat) :
    IsSeat name (s.run seat requests).tree seat := by
  induction requests generalizing s with
  | nil => exact h
  | cons q rest ih =>
    refine ih ?_
    by_cases hq : q = .write
    · subst hq
      exact h.modify_grow _
    · rwa [tree_step hq]

/-- The functions from A to B stay in front of those that come later. -/
theorem aToB_prefix_run (seat : Place) (s : Session) (requests : List Request) :
    s.registry.aToB <+: (s.run seat requests).registry.aToB := by
  rw [registry_run]
  exact List.prefix_append _ _

/-! ## Writing -/

/-- After a write the seed table reads as the registry stands, if before it read as a part of it. -/
theorem ReadsAs.write {requests : List Request} (h : ReadsAs name (s.run seat requests).tree table)
    (hbounds : seed <+: table ∧ table <+: (s.run seat requests).registry.aToB)
    (hr : s.registry = Registry.start seed) (hs : s.registry.Distinct) (hseat : IsSeat name s.tree seat) :
    ReadsAs name ((s.run seat requests).step seat .write).2.tree (s.run seat requests).registry.aToB := by
  have hregistry := registry_run seat requests s
  have hdistinct := distinct_run seat hs requests
  have hseat' := isSeat_run requests hseat
  rw [hr] at hregistry
  generalize s.run seat requests = s' at *
  obtain ⟨old, pairs, hold, hpairs, rfl⟩ := h
  obtain ⟨⟨written, hwritten⟩, fresh, hfresh⟩ := hbounds
  refine ⟨_, _, Tree.seedTable?_modify_grow hseat' hold s'.registry.newEntries,
    Registry.literalPairs_append hpairs s'.registry.literalPairs_newEntries, ?_⟩
  -- what is written is what the table has already, and then what is new in it
  have hsplit : s'.registry.aToB.drop s'.registry.seedSize = written ++ fresh := by
    have hheld : seed ++ (written ++ fresh) = seed ++ s'.registry.aToB.drop s'.registry.seedSize := by
      rw [← List.append_assoc, hwritten, hfresh, hregistry, Registry.drop_aToB_extend_start]
      rfl
    exact (List.append_cancel_left hheld).symm
  have hsame : Table.ofPairs (pairs ++ written) = .ofPairs pairs :=
    Table.ofPairs_append_of_subset fun p hp => hwritten ▸ List.mem_append_right _ hp
  have hnodup : (Table.keys (Table.ofPairs (pairs ++ written) ++ fresh)).Nodup := by
    rw [hsame, hfresh]
    exact hdistinct.tags
  rw [hsplit, ← List.append_assoc, Table.ofPairs_append_of_nodup hnodup, hsame, hfresh]

/-- At any point the seed table reads as a part of what the registry holds. -/
theorem exists_readsAs_run (requests : List Request) (hr : s.registry = Registry.start seed)
    (hs : s.registry.Distinct) (hseat : IsSeat name s.tree seat) (h : ReadsAs name s.tree seed) :
    ∃ table, ReadsAs name (s.run seat requests).tree table ∧ seed <+: table ∧
      table <+: (s.run seat requests).registry.aToB := by
  induction requests using List.reverseRecOn with
  | nil => exact ⟨seed, h, List.prefix_rfl, hr ▸ aToB_prefix_run seat s []⟩
  | append_singleton requests q ih =>
    obtain ⟨table, htable, hseed, hheld⟩ := ih
    rw [run_append]
    show ∃ table, ReadsAs name ((s.run seat requests).step seat q).2.tree table ∧ _
    by_cases hq : q = .write
    · subst hq
      exact ⟨_, htable.write ⟨hseed, hheld⟩ hr hs hseat, hseed.trans hheld, List.prefix_rfl⟩
    · exact ⟨table, by rwa [tree_step hq], hseed, hheld.trans (aToB_prefix_run seat _ [q])⟩

/-- The located registry writes to the seed table that it was read from. -/
theorem readsAs_of_locate {file : Option String} {t : Tree} {r : Registry}
    (h : Registry.locate name file t = .ok (r, seat)) :
    ∃ pairs, r = Registry.start (.ofPairs pairs) ∧ IsSeat name t seat ∧ ReadsAs name t r.aToB := by
  obtain ⟨seed, pairs, hfound, hpairs, rfl⟩ := Registry.locate_eq_ok_iff.1 h
  refine ⟨pairs, rfl, (Tree.seat?_eq_some_iff.1 hfound).1, seed, pairs, ?_, hpairs, rfl⟩
  rw [Tree.seedTable?, hfound, Option.map_some]

/-- A registry that is started anew from a seed table which reads as a table has that table. -/
theorem ReadsAs.exists_ofSeed {t : Tree} {table : Table Text Expr} (h : ReadsAs name t table) :
    ∃ seed r, t.seedTable? name = some seed ∧ Registry.ofSeed seed = .ok r ∧ r.aToB = table := by
  obtain ⟨seed, pairs, hseed, hpairs, rfl⟩ := h
  exact ⟨seed, _, hseed, Registry.ofSeed_eq_ok_iff.2 ⟨pairs, hpairs, rfl⟩, rfl⟩

/-- The seed table of a session, read anew, gives the functions from A to B that the registry held at the last
write, or at the start if nothing was written, though each write appends all of them again. A conversion whose
tag was written is then refused. -/
theorem locate_run {file : Option String} {t : Tree} {r : Registry}
    (h : Registry.locate name file t = .ok (r, seat)) :
    (∀ requests, .write ∉ requests → ∃ seed r', (run seat ⟨r, t⟩ requests).tree.seedTable? name = some seed ∧
      Registry.ofSeed seed = .ok r' ∧ r'.aToB = r.aToB) ∧
    ∀ before after, .write ∉ after → ∃ old seed r',
      (run seat ⟨r, t⟩ before).tree.seedTable? name = some old ∧
      (run seat ⟨r, t⟩ (before ++ .write :: after)).tree.seedTable? name = some seed ∧
      seed.entries = old.entries ++ (run seat ⟨r, t⟩ before).registry.newEntries ∧
      Registry.ofSeed seed = .ok r' ∧
      r'.aToB = (run seat ⟨r, t⟩ before).registry.aToB ∧
      r'.aToB <+: (run seat ⟨r, t⟩ (before ++ .write :: after)).registry.aToB ∧
      ∀ c : Conversion, c.declaration.tag ∈ (run seat ⟨r, t⟩ before).registry.aToB.keys →
        r'.add c = .error (.duplicate (.ofString "A tag") c.declaration.tag) := by
  obtain ⟨pairs, hr, hseat, hreads⟩ := readsAs_of_locate h
  have hdistinct : r.Distinct := hr ▸ Registry.distinct_ofPairs pairs
  constructor
  · intro requests hrequests
    rw [tree_run hrequests]
    exact hreads.exists_ofSeed
  · intro before after hafter
    obtain ⟨table, htable, hbounds⟩ :=
      exists_readsAs_run (s := ⟨r, t⟩) before hr hdistinct hseat (by rwa [hr] at hreads)
    have hwritten := htable.write hbounds hr hdistinct hseat
    obtain ⟨old, -, hold, -⟩ := htable
    obtain ⟨seed, r', hseed, hr', haToB⟩ := hwritten.exists_ofSeed
    -- the tree that the last write leaves is the one at the end
    have htree : (run seat ⟨r, t⟩ (before ++ .write :: after)).tree =
        ((run seat ⟨r, t⟩ before).step seat .write).2.tree := by
      rw [run_append, run_cons, tree_run hafter]
    have hentries : seed.entries = old.entries ++ (run seat ⟨r, t⟩ before).registry.newEntries := by
      have hgrown := Tree.seedTable?_modify_grow (isSeat_run before hseat) hold
        (run seat ⟨r, t⟩ before).registry.newEntries
      rw [Option.some.inj (hseed.symm.trans hgrown)]
    refine ⟨old, seed, r', hold, htree ▸ hseed, hentries, hr', haToB, ?_, fun c hc => ?_⟩
    · rw [haToB, run_append]
      exact aToB_prefix_run seat _ (.write :: after)
    · rw [Registry.add, haToB, if_pos hc]

/-- The seed table is written twice, and what comes after the second write is not in it. -/
theorem locate_run_sample : Registry.locate "A_TO_B" none Sample.tree = .ok (Sample.registry, .here 0) ∧
    .write ∉ [Request.add (Sample.conversion "If" "B_If")] ∧
    ∃ old seed r',
      (run (.here 0) ⟨Sample.registry, Sample.tree⟩ Sample.requests).tree.seedTable? "A_TO_B" = some old ∧
      (run (.here 0) ⟨Sample.registry, Sample.tree⟩
        (Sample.requests ++ .write :: [.add (Sample.conversion "If" "B_If")])).tree.seedTable? "A_TO_B" =
          some seed ∧
      seed.entries = old.entries ++
        (run (.here 0) ⟨Sample.registry, Sample.tree⟩ Sample.requests).registry.newEntries ∧
      Registry.ofSeed seed = .ok r' ∧
      r'.aToB = (run (.here 0) ⟨Sample.registry, Sample.tree⟩ Sample.requests).registry.aToB ∧
      r'.aToB <+: (run (.here 0) ⟨Sample.registry, Sample.tree⟩
        (Sample.requests ++ .write :: [.add (Sample.conversion "If" "B_If")])).registry.aToB ∧
      ∀ c : Conversion, c.declaration.tag ∈
          (run (.here 0) ⟨Sample.registry, Sample.tree⟩ Sample.requests).registry.aToB.keys →
        r'.add c = .error (.duplicate (.ofString "A tag") c.declaration.tag) :=
  have hlocate : Registry.locate "A_TO_B" none Sample.tree = .ok (Sample.registry, .here 0) := rfl
  have hafter : Request.write ∉ [Request.add (Sample.conversion "If" "B_If")] := by simp
  ⟨hlocate, hafter, (locate_run hlocate).2 Sample.requests _ hafter⟩

end Session
end Crosswalk

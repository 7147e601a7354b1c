import PredictiveParsing.Proofs.Conflicts
import PredictiveParsing.Proofs.Extension
import Mathlib.Tactic

/-!
# Rules in another order

Two grammars that differ only in the order of their productions (`Grammar.Reordered`) have the same
sets, since each is within the other.  Their tables have the same cells, with the productions at their
new places (`Grammar.Reordered.get?_eq`), or they have equally many conflicts
(`Grammar.Reordered.conflicts_length`).  Which claims are in conflict may differ: the first claim to a
cell is another one in another order.
-/

namespace PredictiveParsing
namespace Grammar

section

variable {g g' : Grammar} {sets : FirstFollow} {t t' : Table} {nt terminal : SymbolId}

/-- The same grammar, with its productions in another order. -/
structure Reordered (g g' : Grammar) : Prop where
  symbols : g'.symbols = g.symbols
  startName : g'.startName = g.startName
  perm : g.productions.Perm g'.productions

theorem Reordered.symm
    (h : g.Reordered g') :
    g'.Reordered g where
  symbols := h.symbols.symm
  startName := h.startName.symm
  perm := h.perm.symm

theorem Reordered.isTerminal
    (h : g.Reordered g')
    (id : SymbolId) :
    g'.isTerminal id = g.isTerminal id := by
  simp only [Grammar.isTerminal, h.symbols]

theorem Reordered.within
    (h : g.Reordered g') :
    g.Within g' where
  size_le := (congrArg SymbolTable.size h.symbols).ge
  isTerminal_eq := fun id _ => h.isTerminal id
  productions := fun _ hp => h.perm.mem_iff.1 hp

theorem Reordered.wellFormed
    (h : g.Reordered g')
    (hg : g.WellFormed) :
    g'.WellFormed where
  endMarker_terminal := (h.isTerminal _).trans hg.endMarker_terminal
  epsilon_terminal := (h.isTerminal _).trans hg.epsilon_terminal
  lhs_nonterminal := fun p hp =>
    (h.isTerminal _).trans (hg.lhs_nonterminal p (h.perm.mem_iff.2 hp))
  lhs_lt := by
    rw [h.symbols]
    exact fun p hp => hg.lhs_lt p (h.perm.mem_iff.2 hp)
  rhs_lt := by
    rw [h.symbols]
    exact fun p hp => hg.rhs_lt p (h.perm.mem_iff.2 hp)

theorem Reordered.hasEmptyProduction
    (h : g.Reordered g')
    (nt : SymbolId) :
    g'.hasEmptyProduction nt = g.hasEmptyProduction nt :=
  (h.perm.any_eq).symm

theorem mem_productionsOf
    {ix : Nat} :
    ix ∈ g.productionsOf nt ↔ ∃ p, g.productions[ix]? = some p ∧ p.lhs = nt := by
  simp [productionsOf, mem_indicesWhere]

theorem productionsOf_eq_nil_iff :
    g.productionsOf nt = [] ↔ ∀ p ∈ g.productions, p.lhs ≠ nt := by
  rw [List.eq_nil_iff_forall_not_mem]
  simp only [mem_productionsOf, not_exists, not_and]
  constructor
  · intro h p hp
    obtain ⟨ix, hix⟩ := List.mem_iff_getElem?.1 hp
    exact h ix p hix
  · intro h ix p hp
    exact h p (List.mem_of_getElem? hp)

theorem Reordered.start
    (h : g.Reordered g') :
    g'.start = g.start := by
  have hempty : ∀ nt, (g'.productionsOf nt).isEmpty = (g.productionsOf nt).isEmpty := by
    intro nt
    rw [Bool.eq_iff_iff, List.isEmpty_iff, List.isEmpty_iff, productionsOf_eq_nil_iff,
      productionsOf_eq_nil_iff]
    simp only [h.perm.mem_iff]
  simp only [Grammar.start, h.startName, h.symbols, h.isTerminal, hempty]

/-! ### The sets -/

theorem Reordered.firstFollow
    (h : g.Reordered g')
    (hg : g.WellFormed) :
    FirstFollow.ofGrammar g' = FirstFollow.ofGrammar g := by
  have hg' := h.wellFormed hg
  cases hstart : g.start with
  | error fault =>
      rw [FirstFollow.ofGrammar_eq_error hstart,
        FirstFollow.ofGrammar_eq_error (h.start.trans hstart)]
  | ok S =>
      obtain ⟨sets, hsets⟩ : ∃ sets, FirstFollow.ofGrammar g = .ok sets := by
        obtain ⟨_, _, _, hsets⟩ := FirstFollow.ofGrammar_eq hg hstart
        exact ⟨_, hsets⟩
      obtain ⟨sets', hsets'⟩ : ∃ sets', FirstFollow.ofGrammar g' = .ok sets' := by
        obtain ⟨_, _, _, hsets'⟩ := FirstFollow.ofGrammar_eq hg' (h.start.trans hstart)
        exact ⟨_, hsets'⟩
      obtain ⟨hfirst, hfollow⟩ :=
        FirstFollow.le_of_within hg hg' h.within h.start hsets hsets'
      obtain ⟨hfirst', hfollow'⟩ :=
        FirstFollow.le_of_within hg' hg h.symm.within h.start.symm hsets' hsets
      obtain ⟨hkeys, hkeys_follow⟩ := FirstFollow.keys_of_ofGrammar hg hsets
      obtain ⟨hkeys', hkeys_follow'⟩ := FirstFollow.keys_of_ofGrammar hg' hsets'
      rw [h.symbols] at hkeys' hkeys_follow'
      have hnodup := g.symbols.nonterminals_nodup
      have hsame := hfirst'.antisymm hfirst (hkeys'.trans hkeys.symm) (hkeys' ▸ hnodup)
      have hsame_follow := hfollow'.antisymm hfollow (hkeys_follow'.trans hkeys_follow.symm)
        (hkeys_follow' ▸ hnodup)
      rw [hsets, hsets']
      cases sets
      cases sets'
      cases hsame
      cases hsame_follow
      rfl

theorem Reordered.firstOf
    (h : g.Reordered g')
    (first : SetMap) (ids : List SymbolId) :
    g'.firstOf first ids = g.firstOf first ids :=
  firstOf_congr fun id _ => h.isTerminal id

theorem Reordered.predict
    (h : g.Reordered g')
    (sets : FirstFollow) (p : Production) :
    sets.predict g' p = sets.predict g p := by
  simp only [FirstFollow.predict, trailing, h.firstOf]

/-! ### The cells -/

/-- The same terminals are claimed, and equally often. -/
theorem Reordered.claims
    (h : g.Reordered g')
    (sets : FirstFollow) (nt : SymbolId) :
    ((Filling.claims g sets nt).map Prod.fst).Perm ((Filling.claims g' sets nt).map Prod.fst) := by
  rw [Filling.map_fst_claims, Filling.map_fst_claims]
  simp only [h.predict]
  exact (h.perm.filter _).flatMap_right _

theorem Reordered.conflicts_length
    (h : g.Reordered g')
    (sets : FirstFollow) :
    (Filling.ofSets g' sets).conflicts.length = (Filling.ofSets g sets).conflicts.length := by
  rw [Filling.conflicts_ofSets_length, Filling.conflicts_ofSets_length, h.symbols]
  congr 1
  refine List.map_congr_left fun nt _ => ?_
  exact Filling.conflicts_rowOf_length_congr (h.symm.claims sets nt)

/-- With the same sets, there is a table in every order, or equally many conflicts in every order. -/
theorem Reordered.ofSets
    (h : g.Reordered g')
    (sets : FirstFollow) :
    (∀ conflicts, Table.ofSets g sets = .error conflicts →
      ∃ conflicts', Table.ofSets g' sets = .error conflicts' ∧
        conflicts'.length = conflicts.length) ∧
    ∀ t, Table.ofSets g sets = .ok t → ∃ t', Table.ofSets g' sets = .ok t' := by
  have hlength := h.conflicts_length sets
  have hempty : (Filling.ofSets g' sets).conflicts.isEmpty =
      (Filling.ofSets g sets).conflicts.isEmpty := by
    rw [Bool.eq_iff_iff, List.isEmpty_iff_length_eq_zero, List.isEmpty_iff_length_eq_zero, hlength]
  unfold Table.ofSets Filling.result
  rw [hempty]
  split
  · refine ⟨fun _ hfalse => ?_, fun _ _ => ⟨_, rfl⟩⟩
    cases hfalse
  · refine ⟨fun conflicts heq => ⟨_, rfl, ?_⟩, fun _ hfalse => ?_⟩
    · cases heq
      exact hlength
    · cases hfalse

theorem Reordered.table_fault
    (h : g.Reordered g')
    (hg : g.WellFormed)
    {fault : Fault}
    (hfault : Table.ofGrammar g = .error (.fault fault)) :
    Table.ofGrammar g' = .error (.fault fault) := by
  unfold Table.ofGrammar at hfault ⊢
  rw [h.firstFollow hg]
  split at hfault
  · exact hfault
  · split at hfault <;> cases hfault

theorem Reordered.table_conflicts
    (h : g.Reordered g')
    (hg : g.WellFormed)
    {conflicts : List (Conflict SymbolId Nat)}
    (hconflicts : Table.ofGrammar g = .error (.conflicts conflicts)) :
    ∃ conflicts', Table.ofGrammar g' = .error (.conflicts conflicts') ∧
      conflicts'.length = conflicts.length := by
  unfold Table.ofGrammar at hconflicts ⊢
  rw [h.firstFollow hg]
  split at hconflicts
  · cases hconflicts
  · rename_i sets _
    split at hconflicts
    · rename_i found hfound
      cases hconflicts
      obtain ⟨conflicts', hconflicts', hlength⟩ := (h.ofSets sets).1 _ hfound
      exact ⟨conflicts', by simp only [hconflicts'], hlength⟩
    · cases hconflicts

theorem Reordered.table_ok
    (h : g.Reordered g')
    (hg : g.WellFormed)
    (ht : Table.ofGrammar g = .ok t) :
    ∃ sets t', Table.ofSets g sets = .ok t ∧ Table.ofSets g' sets = .ok t' ∧
      Table.ofGrammar g' = .ok t' := by
  obtain ⟨sets, hsets, htable⟩ := Table.ofGrammar_eq_ok ht
  obtain ⟨t', htable'⟩ := (h.ofSets sets).2 t htable
  refine ⟨sets, t', htable, htable', ?_⟩
  simp only [Table.ofGrammar, h.firstFollow hg, hsets, htable']

/-- A cell holds the same production as before, at its new place. -/
theorem Reordered.get?_eq
    (h : g.Reordered g')
    (ht : Table.ofSets g sets = .ok t)
    (ht' : Table.ofSets g' sets = .ok t')
    {place : Nat → Nat}
    (hplace : ∀ ix p, g.productions[ix]? = some p → g'.productions[place ix]? = some p)
    (nt terminal : SymbolId) :
    t'.get? nt terminal = (t.get? nt terminal).map place := by
  cases hcell : t.get? nt terminal with
  | some ix =>
      obtain ⟨hnt, hclaim⟩ := (Table.get?_eq_some_iff_claim ht).1 hcell
      obtain ⟨p, hp, hlhs, hterminal⟩ := Filling.mem_claims.1 hclaim
      refine (Table.get?_eq_some_iff_claim ht').2 ⟨h.symbols ▸ hnt, ?_⟩
      exact Filling.mem_claims.2 ⟨p, hplace ix p hp, hlhs, h.predict sets p ▸ hterminal⟩
  | none =>
      by_contra hsome
      obtain ⟨ix', hcell'⟩ := Option.ne_none_iff_exists'.1 hsome
      obtain ⟨hnt, hclaim⟩ := (Table.get?_eq_some_iff_claim ht').1 hcell'
      obtain ⟨p, hp, hlhs, hterminal⟩ := Filling.mem_claims.1 hclaim
      obtain ⟨ix, hix⟩ := List.mem_iff_getElem?.1 (h.perm.mem_iff.2 (List.mem_of_getElem? hp))
      have hkept : t.get? nt terminal = some ix := by
        refine (Table.get?_eq_some_iff_claim ht).2 ⟨h.symbols ▸ hnt, ?_⟩
        exact Filling.mem_claims.2 ⟨p, hix, hlhs, h.predict sets p ▸ hterminal⟩
      rw [hcell] at hkept
      cases hkept

end

end Grammar
end PredictiveParsing

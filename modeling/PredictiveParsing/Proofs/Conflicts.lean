import PredictiveParsing.Proofs.Cells
import Mathlib.Tactic

/-!
# The number of conflicts

Of the claims to a cell the first one is kept, and every later one is a conflict.  No claim is made
twice, so a row has as many conflicts as there are claims for the row beyond the first ones to its
cells (`Filling.conflicts_rowOf_length`).  This number depends only on how often each terminal is
claimed, and not on the order of the claims.
-/

namespace PredictiveParsing
namespace Filling

section

variable {g : Grammar} {sets : FirstFollow} {nt : SymbolId}

/-! ### The claims of a non-terminal -/

/-- The terminals that are claimed, each as often as it is. -/
theorem map_fst_claims
    (g : Grammar) (sets : FirstFollow) (nt : SymbolId) :
    (claims g sets nt).map Prod.fst =
      (g.productions.filter fun p => p.lhs == nt).flatMap fun p =>
        (sets.predict g p).toList := by
  have hfilter : (g.productions.filter fun p => p.lhs == nt) =
      (g.productions.zipIdx.filter fun e => e.1.lhs == nt).map Prod.fst := by
    rw [← List.zipIdx_map_fst 0 g.productions, List.filter_map]
    simp [Function.comp_def]
  rw [claims_eq, hfilter, List.map_flatMap, List.flatMap_map]
  simp [Function.comp_def]

/-- The claims of a row come in the order of their productions, and those of one production in the
order of their terminals. -/
theorem claims_ascending
    (g : Grammar) (sets : FirstFollow) (nt : SymbolId) :
    (claims g sets nt).Pairwise fun c d => c.2 < d.2 ∨ c.2 = d.2 ∧ c.1 < d.1 := by
  have hindices : g.productions.zipIdx.Pairwise fun e f => e.2 < f.2 := by
    refine List.pairwise_map.1 ?_
    rw [List.zipIdx_map_snd]
    exact List.pairwise_lt_range'
  rw [claims_eq, List.pairwise_flatMap]
  constructor
  · rintro ⟨p, ix⟩ _
    have hset : (sets.predict g p).toList.Pairwise (· < ·) :=
      List.pairwise_lt_range.filter _
    exact List.pairwise_map.2 (hset.imp fun hlt => Or.inr ⟨rfl, hlt⟩)
  · refine (hindices.filter _).imp fun hlt claim hclaim claim' hclaim' => ?_
    obtain ⟨_, _, rfl⟩ := List.mem_map.1 hclaim
    obtain ⟨_, _, rfl⟩ := List.mem_map.1 hclaim'
    exact Or.inl hlt

theorem claims_nodup
    (g : Grammar) (sets : FirstFollow) (nt : SymbolId) :
    (claims g sets nt).Nodup := by
  refine (claims_ascending g sets nt).imp fun {c d} hlt heq => ?_
  subst heq
  rcases hlt with hlt | ⟨_, hlt⟩ <;> exact absurd hlt (Nat.lt_irrefl _)

/-! ### Counting the later ones -/

/-- There is one first claim for each terminal that is claimed. -/
theorem card_first_claims
    (cs : List (SymbolId × Nat)) :
    (cs.toFinset.filter fun c => cs.lookup c.1 = some c.2).card =
      (cs.map Prod.fst).toFinset.card := by
  have himage : (cs.toFinset.filter fun c => cs.lookup c.1 = some c.2).image Prod.fst =
      (cs.map Prod.fst).toFinset := by
    ext terminal
    simp only [Finset.mem_image, Finset.mem_filter, List.mem_toFinset, List.mem_map]
    constructor
    · rintro ⟨c, ⟨hc, _⟩, rfl⟩
      exact ⟨c, hc, rfl⟩
    · rintro ⟨c, hc, rfl⟩
      cases hlookup : cs.lookup c.1 with
      | none =>
          simpa using List.lookup_eq_none_iff.1 hlookup c hc
      | some kept =>
          exact ⟨(c.1, kept), ⟨mem_of_lookup hlookup, hlookup⟩, rfl⟩
  rw [← himage, Finset.card_image_of_injOn]
  intro c hc c' hc' heq
  have hkept := (Finset.mem_filter.1 hc).2
  have hkept' := (Finset.mem_filter.1 hc').2
  rw [heq, hkept'] at hkept
  exact Prod.ext heq (Option.some.inj hkept).symm

/-- A row has a conflict for every claim that is not the first one to its cell. -/
theorem conflicts_rowOf_length
    (g : Grammar) (sets : FirstFollow) (nt : SymbolId) :
    (rowOf g sets nt).2.length + ((claims g sets nt).map Prod.fst).toFinset.card =
      (claims g sets nt).length := by
  rw [conflicts_rowOf]
  have hnodup := claims_nodup g sets nt
  generalize claims g sets nt = cs at hnodup ⊢
  have hfirst : cs.countP (fun c => cs.lookup c.1 = some c.2) =
      (cs.map Prod.fst).toFinset.card := by
    rw [← card_first_claims, List.countP_eq_length_filter,
      ← List.toFinset_card_of_nodup (hnodup.filter _), List.toFinset_filter]
    simp
  have hlater : (cs.filterMap (conflict? nt cs)).length =
      cs.countP (fun c => ¬ cs.lookup c.1 = some c.2) := by
    rw [List.length_filterMap_eq_countP]
    refine List.countP_congr fun c hc => ?_
    rw [decide_eq_true_iff, ← conflict?_eq_none_iff nt hc, Option.isSome_iff_ne_none]
  have htotal := List.length_eq_countP_add_countP (fun c => cs.lookup c.1 = some c.2) (l := cs)
  simp only [decide_eq_true_eq] at htotal
  omega

/-- The later elements of a list, those that are not the first of their value, are no fewer in a
larger list. -/
theorem length_add_card_le
    {terminals others : List SymbolId}
    (h : terminals.Subperm others) :
    terminals.length + others.toFinset.card ≤ others.length + terminals.toFinset.card := by
  obtain ⟨found, hfound, hsublist⟩ := h
  obtain ⟨rest, hrest⟩ := hsublist.exists_perm_append
  have hperm := hrest.trans (hfound.append_right rest)
  have hcard : others.toFinset.card ≤ terminals.toFinset.card + rest.length := by
    rw [List.toFinset_eq_of_perm _ _ hperm, List.toFinset_append]
    exact (Finset.card_union_le _ _).trans (Nat.add_le_add_left rest.toFinset_card_le _)
  have hlength := hperm.length_eq
  rw [List.length_append] at hlength
  omega

/-- With more claims there are no fewer conflicts. -/
theorem conflicts_rowOf_length_le
    {g' : Grammar} {sets' : FirstFollow}
    (h : ((claims g sets nt).map Prod.fst).Subperm ((claims g' sets' nt).map Prod.fst)) :
    (rowOf g sets nt).2.length ≤ (rowOf g' sets' nt).2.length := by
  have hlater := length_add_card_le h
  rw [List.length_map, List.length_map] at hlater
  have hfirst := conflicts_rowOf_length g sets nt
  have hfirst' := conflicts_rowOf_length g' sets' nt
  omega

/-- The number of conflicts of a row depends on how often each terminal is claimed only. -/
theorem conflicts_rowOf_length_congr
    {g' : Grammar} {sets' : FirstFollow}
    (h : ((claims g sets nt).map Prod.fst).Perm ((claims g' sets' nt).map Prod.fst)) :
    (rowOf g sets nt).2.length = (rowOf g' sets' nt).2.length :=
  Nat.le_antisymm (conflicts_rowOf_length_le h.subperm)
    (conflicts_rowOf_length_le h.symm.subperm)

theorem conflicts_ofSets_length
    (g : Grammar) (sets : FirstFollow) :
    (ofSets g sets).conflicts.length =
      (g.symbols.nonterminals.map fun nt => (rowOf g sets nt).2.length).sum := by
  rw [ofSets_eq, List.length_flatMap]

end

end Filling
end PredictiveParsing

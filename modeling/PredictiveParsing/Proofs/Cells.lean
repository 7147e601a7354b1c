import PredictiveParsing.Table
import PredictiveParsing.Proofs.Reachable
import PredictiveParsing.Proofs.Saturation
import Mathlib.Tactic

/-!
# The cells of a table

A table is filled row by row, and a row claim by claim.  A cell has the first claim to it, and the
claims that differ from the first one to their cell are the conflicts (`Filling.enter_fold`).  So
without conflicts a cell holds the production of the claims to it, and there are no other cells
(`get?_eq_some_iff_claim`).

`Table.Fits` is what the parser needs of a table: a cell holds a production of its non-terminal.
-/

namespace PredictiveParsing

namespace Grammar

theorem mem_indicesWhere
    {g : Grammar} {c : Production → Bool} {ix : Nat} :
    ix ∈ g.indicesWhere c ↔ ∃ p, g.productions[ix]? = some p ∧ c p = true := by
  simp [indicesWhere, List.mem_zipIdx_iff_getElem?]

theorem indicesWhere_pairwise
    (g : Grammar) (c : Production → Bool) :
    (g.indicesWhere c).Pairwise (· < ·) := by
  have hall : (g.productions.zipIdx.map Prod.snd).Pairwise (· < ·) := by
    rw [List.zipIdx_map_snd]
    exact List.pairwise_lt_range'
  exact hall.sublist (List.filter_sublist.map Prod.snd)

end Grammar

namespace Filling

section

variable {g : Grammar} {sets : FirstFollow}

/-- The claims go through the productions of the non-terminal in their order. -/
theorem claims_eq
    (g : Grammar) (sets : FirstFollow) (nt : SymbolId) :
    claims g sets nt =
      (g.productions.zipIdx.filter fun e => e.1.lhs == nt).flatMap fun e =>
        (sets.predict g e.1).toList.map fun terminal => (terminal, e.2) := by
  unfold claims Grammar.productionsOf Grammar.indicesWhere
  rw [List.flatMap_map]
  refine List.flatMap_congr fun e he => ?_
  have hget := List.mem_zipIdx_iff_getElem?.1 (List.mem_filter.1 he).1
  rw [hget]

theorem mem_claims
    {nt terminal : SymbolId} {ix : Nat} :
    (terminal, ix) ∈ claims g sets nt ↔
      ∃ p, g.productions[ix]? = some p ∧ p.lhs = nt ∧ terminal ∈ sets.predict g p := by
  simp only [claims_eq, List.mem_flatMap, List.mem_filter, List.mem_zipIdx_iff_getElem?,
    List.mem_map, SymbolSet.mem_toList]
  constructor
  · rintro ⟨⟨p, i⟩, ⟨hp, hlhs⟩, _, ht, heq⟩
    cases heq
    exact ⟨p, hp, by simpa using hlhs, ht⟩
  · rintro ⟨p, hp, hlhs, ht⟩
    exact ⟨(p, ix), ⟨hp, by simpa using hlhs⟩, terminal, ht, rfl⟩

/-- The row of a non-terminal and its conflicts. -/
def rowOf (g : Grammar) (sets : FirstFollow) (nt : SymbolId) :
    Row × List (Conflict SymbolId Nat) :=
  (claims g sets nt).foldl (enter nt) ([], [])

theorem ofSets_eq
    (g : Grammar) (sets : FirstFollow) :
    ofSets g sets =
      { table := { rows := g.symbols.nonterminals.map fun nt => (nt, (rowOf g sets nt).1) }
        conflicts := g.symbols.nonterminals.flatMap fun nt => (rowOf g sets nt).2 } := by
  have hfold : ∀ (nts : List SymbolId) (f : Filling),
      nts.foldl (fillRow g sets) f =
        { table := { rows := f.table.rows ++ nts.map fun nt => (nt, (rowOf g sets nt).1) }
          conflicts := f.conflicts ++ nts.flatMap fun nt => (rowOf g sets nt).2 } := by
    intro nts
    induction nts with
    | nil =>
        intro f
        simp
    | cons nt nts ih =>
        intro f
        rw [List.foldl_cons, ih]
        simp [fillRow, rowOf]
  unfold ofSets
  rw [hfold]
  simp

/-- The conflict that a claim is in, if it is not the first one to its cell. -/
def conflict? (nt : SymbolId) (cs : List (SymbolId × Nat)) (claim : SymbolId × Nat) :
    Option (Conflict SymbolId Nat) :=
  match cs.lookup claim.1 with
  | none => none
  | some kept =>
      if kept = claim.2 then none
      else some { nonterminal := nt, lookahead := claim.1, kept := kept, refused := claim.2 }

/-- A claim to a cell that is taken changes no cell. -/
theorem lookup_append_cons_of_some
    {row : Row} {t : SymbolId} {kept : Nat}
    (h : row.lookup t = some kept)
    (cs : List (SymbolId × Nat)) (i : Nat) (other : SymbolId) :
    (row ++ (t, i) :: cs).lookup other = (row ++ cs).lookup other := by
  rw [List.lookup_append, List.lookup_append, lookup_cons_eq_ite]
  by_cases heq : other = t
  · rw [heq, h]
    rfl
  · simp [heq]

/-- A cell has the first claim to it, and the claims that differ from the first one to their cell are
the conflicts, in the order of the claims. -/
theorem enter_fold
    (nt : SymbolId) (cs : List (SymbolId × Nat)) (row : Row)
    (conflicts : List (Conflict SymbolId Nat)) :
    (∀ t, (cs.foldl (enter nt) (row, conflicts)).1.lookup t = (row ++ cs).lookup t) ∧
      (cs.foldl (enter nt) (row, conflicts)).2 =
        conflicts ++ cs.filterMap (conflict? nt (row ++ cs)) := by
  induction cs generalizing row conflicts with
  | nil =>
      simp
  | cons c cs ih =>
      obtain ⟨t, i⟩ := c
      rw [List.foldl_cons, List.filterMap_cons]
      cases hrow : row.lookup t with
      | none =>
          have henter : enter nt (row, conflicts) (t, i) = (row ++ [(t, i)], conflicts) := by
            simp [enter, hrow]
          have hfirst : conflict? nt (row ++ (t, i) :: cs) (t, i) = none := by
            simp [conflict?, List.lookup_append, hrow]
          rw [henter, hfirst]
          simpa using ih (row ++ [(t, i)]) conflicts
      | some kept =>
          have hlookup := lookup_append_cons_of_some hrow cs i
          have hconflict : conflict? nt (row ++ (t, i) :: cs) = conflict? nt (row ++ cs) := by
            funext claim
            simp only [conflict?, hlookup]
          have hkept : (row ++ cs).lookup t = some kept := by
            simp [List.lookup_append, hrow]
          simp only [hlookup, hconflict]
          by_cases heq : kept = i
          · have henter : enter nt (row, conflicts) (t, i) = (row, conflicts) := by
              simp [enter, hrow, heq]
            have hnone : conflict? nt (row ++ cs) (t, i) = none := by
              simp [conflict?, hkept, heq]
            rw [henter, hnone]
            exact ih row conflicts
          · have henter : enter nt (row, conflicts) (t, i) =
                (row, conflicts ++ [⟨nt, t, kept, i⟩]) := by
              simp [enter, hrow, heq]
            have hsome : conflict? nt (row ++ cs) (t, i) = some ⟨nt, t, kept, i⟩ := by
              simp [conflict?, hkept, heq]
            obtain ⟨hcells, hconflicts⟩ := ih row (conflicts ++ [⟨nt, t, kept, i⟩])
            rw [henter, hsome, hconflicts, List.append_assoc]
            exact ⟨hcells, rfl⟩

theorem lookup_rowOf
    (g : Grammar) (sets : FirstFollow) (nt t : SymbolId) :
    (rowOf g sets nt).1.lookup t = (claims g sets nt).lookup t :=
  (enter_fold nt _ [] []).1 t

theorem conflicts_rowOf
    (g : Grammar) (sets : FirstFollow) (nt : SymbolId) :
    (rowOf g sets nt).2 = (claims g sets nt).filterMap (conflict? nt (claims g sets nt)) :=
  (enter_fold nt _ [] []).2

theorem conflict?_eq_none_iff
    (nt : SymbolId) {cs : List (SymbolId × Nat)} {claim : SymbolId × Nat}
    (hclaim : claim ∈ cs) :
    conflict? nt cs claim = none ↔ cs.lookup claim.1 = some claim.2 := by
  unfold conflict?
  split
  · rename_i hlookup
    have hne := List.lookup_eq_none_iff.1 hlookup claim hclaim
    simp at hne
  · rename_i kept hlookup
    simp [hlookup]

/-- Without conflicts, every claim is the first one to its cell. -/
theorem lookup_of_conflicts_eq_nil
    {nt : SymbolId}
    (h : (rowOf g sets nt).2 = []) :
    ∀ claim ∈ claims g sets nt, (claims g sets nt).lookup claim.1 = some claim.2 := by
  rw [conflicts_rowOf, List.filterMap_eq_nil_iff] at h
  exact fun claim hclaim => (conflict?_eq_none_iff nt hclaim).1 (h claim hclaim)

end

end Filling

namespace Table

section

variable {g : Grammar} {sets : FirstFollow} {t : Table}

theorem lookup_map_mk
    {β : Type}
    (f : SymbolId → β) (ids : List SymbolId) (id : SymbolId) :
    (ids.map fun nt => (nt, f nt)).lookup id = if id ∈ ids then some (f id) else none := by
  induction ids with
  | nil =>
      simp
  | cons other ids ih =>
      rw [List.map_cons, lookup_cons_eq_ite, ih]
      by_cases h : id = other <;> simp [h]

/-- A cell of a table without conflicts holds the production of every claim to it. -/
theorem get?_eq_some_iff_claim
    (h : Table.ofSets g sets = .ok t)
    {nt terminal : SymbolId} {ix : Nat} :
    t.get? nt terminal = some ix ↔
      nt ∈ g.symbols.nonterminals ∧ (terminal, ix) ∈ Filling.claims g sets nt := by
  unfold Table.ofSets Filling.result at h
  rw [Filling.ofSets_eq] at h
  split at h
  · rename_i hnil
    cases h
    simp only [List.isEmpty_iff, List.flatMap_eq_nil_iff] at hnil
    unfold get?
    rw [lookup_map_mk]
    by_cases hnt : nt ∈ g.symbols.nonterminals
    · have hfirst := Filling.lookup_of_conflicts_eq_nil (hnil nt hnt)
      simp only [hnt, if_true, Option.bind_some, Filling.lookup_rowOf, true_and]
      exact ⟨mem_of_lookup, fun hmem => hfirst _ hmem⟩
    · simp [hnt]
  · cases h

theorem ne_nil_of_ofSets
    {conflicts : List (Conflict SymbolId Nat)}
    (h : Table.ofSets g sets = .error conflicts) :
    conflicts ≠ [] := by
  unfold Table.ofSets Filling.result at h
  split at h
  · cases h
  · rename_i hconflicts
    cases h
    simpa using hconflicts

/-- A cell holds a production of its non-terminal. -/
def Fits (t : Table) (g : Grammar) : Prop :=
  ∀ nt terminal ix, t.get? nt terminal = some ix →
    ∃ p, g.productions[ix]? = some p ∧ p.lhs = nt

theorem fits_of_ofSets
    (h : Table.ofSets g sets = .ok t) :
    t.Fits g := by
  intro nt terminal ix hcell
  obtain ⟨p, hp, hlhs, _⟩ := Filling.mem_claims.1 ((get?_eq_some_iff_claim h).1 hcell).2
  exact ⟨p, hp, hlhs⟩

/-- A table fits if each entry of each row does. -/
theorem fits_of_rows
    (h : ∀ row ∈ t.rows, ∀ cell ∈ row.2,
      g.productions[cell.2]?.map Production.lhs = some row.1) :
    t.Fits g := by
  intro nt terminal ix hcell
  obtain ⟨row, hrow, hix⟩ := Option.bind_eq_some_iff.1 hcell
  exact Option.map_eq_some_iff.1 (h (nt, row) (mem_of_lookup hrow) (terminal, ix) (mem_of_lookup hix))

/-- A table fits a grammar that has more rules. -/
theorem Fits.addRule
    (ht : t.Fits g)
    {g' : Grammar} {antecedent consequent : String} {ix : Nat}
    (h : g.addRule antecedent consequent = .ok (ix, g')) :
    t.Fits g' := by
  obtain ⟨nt, rhs, _, _, _, _, rfl⟩ := Grammar.addRule_eq_ok h
  intro nt' terminal jx hcell
  obtain ⟨p, hp, hlhs⟩ := ht nt' terminal jx hcell
  refine ⟨p, ?_, hlhs⟩
  have hlt : jx < g.productions.length := (List.getElem?_eq_some_iff.1 hp).1
  rw [List.getElem?_append_left hlt, hp]

theorem ofGrammar_eq_ok
    (h : Table.ofGrammar g = .ok t) :
    ∃ sets, FirstFollow.ofGrammar g = .ok sets ∧ Table.ofSets g sets = .ok t := by
  unfold ofGrammar at h
  split at h
  · cases h
  · rename_i sets hsets
    split at h
    · cases h
    · rename_i table htable
      cases h
      exact ⟨sets, hsets, htable⟩

theorem ofGrammar_of_conflicts
    (hsets : FirstFollow.ofGrammar g = .ok sets)
    (hne : (Filling.ofSets g sets).conflicts ≠ []) :
    Table.ofGrammar g = .error (.conflicts (Filling.ofSets g sets).conflicts) := by
  simp only [Table.ofGrammar, hsets, Table.ofSets, Filling.result]
  rw [if_neg (by simpa using hne)]

theorem ofGrammar_eq_conflicts
    (hsets : FirstFollow.ofGrammar g = .ok sets)
    {conflicts : List (Conflict SymbolId Nat)}
    (h : Table.ofGrammar g = .error (.conflicts conflicts)) :
    (Filling.ofSets g sets).conflicts ≠ [] ∧ conflicts = (Filling.ofSets g sets).conflicts := by
  by_cases hnil : (Filling.ofSets g sets).conflicts = []
  · simp [Table.ofGrammar, hsets, Table.ofSets, Filling.result, hnil] at h
  · rw [ofGrammar_of_conflicts hsets hnil] at h
    cases h
    exact ⟨hnil, rfl⟩

theorem fits_of_ofGrammar
    (h : Table.ofGrammar g = .ok t) :
    t.Fits g := by
  obtain ⟨sets, _, htable⟩ := ofGrammar_eq_ok h
  exact fits_of_ofSets htable

/-- The table of `Grammar.sums`. -/
def sums : Table where
  rows := [(4, [(3, 0)]), (5, [(2, 1), (0, 2)]), (6, [(3, 3)])]

theorem ofGrammar_sums :
    Table.ofGrammar Grammar.sums = .ok sums := by
  decide +kernel

end

end Table
end PredictiveParsing

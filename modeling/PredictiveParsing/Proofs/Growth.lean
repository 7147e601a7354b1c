import PredictiveParsing.Proofs.Reordering
import PredictiveParsing.Proofs.Requests
import PredictiveParsing.Proofs.Unambiguous
import Mathlib.Tactic

/-!
# Declarations only add

A declaration that does not choose another start symbol leaves a grammar with the same symbols and
productions, and perhaps more (`Grammar.Extends`).  Then FIRST and FOLLOW are larger sets, each
production claims more cells of the table, and the productions that were there before are followed
by the new ones.

A row has a conflict for each claim that is not the first one to its cell, whichever that is.  So it
does not matter that another production may be the first to claim a cell: there are no fewer later
claims than before (`Grammar.Extends.conflicts_length_le`).
-/

namespace PredictiveParsing

theorem SymbolSet.toList_subperm
    {s s' : SymbolSet}
    (h : ∀ x ∈ s, x ∈ s') :
    s.toList.Subperm s'.toList := by
  have hnodup : s.toList.Nodup := List.nodup_range.filter _
  exact hnodup.subperm fun x hx => mem_toList.2 (h x (mem_toList.1 hx))

theorem subperm_flatMap
    {α β : Type} {as : List α} {f f' : α → List β}
    (h : ∀ a ∈ as, (f a).Subperm (f' a)) :
    (as.flatMap f).Subperm (as.flatMap f') := by
  induction as with
  | nil =>
      exact List.Subperm.refl _
  | cons a as ih =>
      rw [List.flatMap_cons, List.flatMap_cons]
      refine (h a List.mem_cons_self).append (ih fun a ha => ?_)
      exact h a (List.mem_cons_of_mem _ ha)

namespace Grammar

section

variable {g g' g'' : Grammar} {S A x : SymbolId}

/-- The start symbol has the name that was chosen, and it is a non-terminal with a production. -/
theorem start_eq_ok_iff :
    g.start = .ok S ↔
      ∃ name, g.startName = some name ∧ g.symbols.id? name = some S ∧
        g.isTerminal S = false ∧ ∃ p ∈ g.productions, p.lhs = S := by
  have hempty : (g.productionsOf S).isEmpty = false ↔ ∃ p ∈ g.productions, p.lhs = S := by
    rw [Bool.eq_false_iff, ne_eq, List.isEmpty_iff, productionsOf_eq_nil_iff]
    simp
  rw [← hempty]
  constructor
  · intro h
    unfold Grammar.start at h
    split at h
    · cases h
    · rename_i name hname
      obtain ⟨nt, hnt, h⟩ := bind_eq_ok h
      cases hterm : g.isTerminal nt with
      | true =>
          rw [hterm] at h
          cases h
      | false =>
          cases hrules : (g.productionsOf nt).isEmpty with
          | true =>
              rw [hterm, hrules] at h
              cases h
          | false =>
              rw [hterm, hrules] at h
              cases h
              exact ⟨name, hname, SymbolTable.resolve_eq_ok_iff.1 hnt, hterm, hrules⟩
  · rintro ⟨name, hname, hid, hterm, hrules⟩
    simp only [Grammar.start, hname, SymbolTable.resolve_eq_ok_iff.2 hid, bind, Except.bind, hterm,
      hrules, Bool.false_eq_true, if_false]
    rfl

/-- The same symbols, productions and start symbol, and perhaps more symbols and productions after
them. -/
structure Extends (g g' : Grammar) : Prop where
  size_le : g.symbols.size ≤ g'.symbols.size
  isTerminal_eq : ∀ id < g.symbols.size, g'.isTerminal id = g.isTerminal id
  productions : g.productions <+: g'.productions
  start : ∀ S, g.start = .ok S → g'.start = .ok S

namespace Extends

theorem refl
    (g : Grammar) :
    g.Extends g where
  size_le := le_refl _
  isTerminal_eq := fun _ _ => rfl
  productions := List.prefix_refl _
  start := fun _ h => h

theorem trans
    (h : g.Extends g')
    (h' : g'.Extends g'') :
    g.Extends g'' where
  size_le := h.size_le.trans h'.size_le
  isTerminal_eq := fun id hid =>
    (h'.isTerminal_eq id (Nat.lt_of_lt_of_le hid h.size_le)).trans (h.isTerminal_eq id hid)
  productions := h.productions.trans h'.productions
  start := fun S hS => h'.start S (h.start S hS)

theorem within
    (h : g.Extends g') :
    g.Within g' where
  size_le := h.size_le
  isTerminal_eq := h.isTerminal_eq
  productions := fun _ hp => h.productions.subset hp

theorem of_symbols
    {t : SymbolTable}
    (hsize : g.symbols.size ≤ t.size)
    (hkind : ∀ id < g.symbols.size, t.isTerminal id = g.isTerminal id)
    (hname : ∀ name id, g.symbols.id? name = some id → g.isTerminal id = false →
      t.id? name = some id) :
    g.Extends { g with symbols := t } where
  size_le := hsize
  isTerminal_eq := hkind
  productions := List.prefix_refl _
  start := by
    intro S hS
    obtain ⟨name, hstart, hid, hterm, hrule⟩ := start_eq_ok_iff.1 hS
    refine start_eq_ok_iff.2 ⟨name, hstart, hname name S hid hterm, ?_, hrule⟩
    exact (hkind S (SymbolTable.lt_size_of_id? hid)).trans hterm

theorem of_production
    (g : Grammar) (p : Production) :
    g.Extends (g.addProduction p) where
  size_le := le_refl _
  isTerminal_eq := fun _ _ => rfl
  productions := List.prefix_append _ _
  start := by
    intro S hS
    obtain ⟨name, hstart, hid, hterm, q, hq, hlhs⟩ := start_eq_ok_iff.1 hS
    exact start_eq_ok_iff.2 ⟨name, hstart, hid, hterm, q, List.mem_append_left _ hq, hlhs⟩

end Extends

/-- A declaration adds to the grammar, unless it chooses a start symbol. -/
theorem WellFormed.extends_ask
    (hg : g.WellFormed)
    {d : Declaration}
    (hd : ∀ name, d ≠ .start name) :
    g.Extends (g.ask d).2 := by
  have h := g.ask_effect d
  generalize g.ask d = asked at h ⊢
  cases h with
  | symbols =>
      refine .of_symbols (SymbolTable.size_le_ask _ _) (fun id hid => ?_)
        fun name id hid hterm => ?_
      · exact SymbolTable.isTerminal_ask _ hg.endMarker_terminal hid
      · refine SymbolTable.id?_ask _ hid ?_
        rintro rfl
        rw [hg.endMarker_terminal] at hterm
        cases hterm
  | start hstart =>
      exact absurd hstart (hd _)
  | added =>
      exact .of_production g _
  | refused =>
      exact .refl g

theorem WellFormed.extends_asked
    (hg : g.WellFormed)
    {ds : List Declaration}
    (hds : ∀ d ∈ ds, ∀ name, d ≠ .start name) :
    (inTurn Grammar.ask g ds).2.WellFormed ∧ g.Extends (inTurn Grammar.ask g ds).2 := by
  refine inTurn_invariant (P := fun g' => g'.WellFormed ∧ g.Extends g') ⟨hg, .refl g⟩ ds ?_
  rintro g' d hd ⟨hg', h⟩
  exact ⟨hg'.ask d, h.trans (hg'.extends_ask (hds d hd))⟩

/-! ### Sets and claims -/

theorem Extends.mem_firstOf
    (h : g.Extends g')
    {first first' : SetMap}
    (hle : first.Le first')
    {ids : List SymbolId}
    (hids : ∀ id ∈ ids, id < g.symbols.size)
    (hx : x ∈ g.firstOf first ids) :
    x ∈ g'.firstOf first' ids := by
  have hsame : g'.firstOf first ids = g.firstOf first ids :=
    firstOf_congr fun id hid => h.isTerminal_eq id (hids id hid)
  rw [← hsame] at hx
  exact firstOf_mono hle hx

/-- A production is chosen on the same terminals, and perhaps more. -/
theorem Extends.mem_predict
    (h : g.Extends g')
    {sets sets' : FirstFollow}
    (hfirst : sets.first.Le sets'.first)
    (hfollow : sets.follow.Le sets'.follow)
    {p : Production}
    (hids : ∀ id ∈ p.rhs, id < g.symbols.size)
    (hx : x ∈ sets.predict g p) :
    x ∈ sets'.predict g' p := by
  refine mem_trailing.2 ?_
  rcases mem_trailing.1 hx with ⟨hx, hne⟩ | ⟨hnull, hx⟩
  · exact Or.inl ⟨h.mem_firstOf hfirst hids hx, hne⟩
  · exact Or.inr ⟨h.mem_firstOf hfirst hids hnull, hfollow p.lhs x hx⟩

/-- Each terminal is claimed as often as before, or more often. -/
theorem Extends.claims_subperm
    (h : g.Extends g')
    (hg : g.WellFormed)
    {sets sets' : FirstFollow}
    (hfirst : sets.first.Le sets'.first)
    (hfollow : sets.follow.Le sets'.follow)
    (nt : SymbolId) :
    ((Filling.claims g sets nt).map Prod.fst).Subperm
      ((Filling.claims g' sets' nt).map Prod.fst) := by
  obtain ⟨added, hadded⟩ := h.productions
  rw [Filling.map_fst_claims, Filling.map_fst_claims, ← hadded, List.filter_append,
    List.flatMap_append]
  have hkept : ∀ p ∈ g.productions.filter fun p => p.lhs == nt,
      (sets.predict g p).toList.Subperm (sets'.predict g' p).toList := by
    intro p hp
    have hids := hg.rhs_lt p (List.mem_of_mem_filter hp)
    exact SymbolSet.toList_subperm fun x hx => h.mem_predict hfirst hfollow hids hx
  exact (subperm_flatMap hkept).trans (List.sublist_append_left _ _).subperm

/-- There are as many conflicts as before, or more. -/
theorem Extends.conflicts_length_le
    (h : g.Extends g')
    (hg : g.WellFormed)
    {sets sets' : FirstFollow}
    (hfirst : sets.first.Le sets'.first)
    (hfollow : sets.follow.Le sets'.follow) :
    (Filling.ofSets g sets).conflicts.length ≤ (Filling.ofSets g' sets').conflicts.length := by
  rw [Filling.conflicts_ofSets_length, Filling.conflicts_ofSets_length]
  have hnts : g.symbols.nonterminals.Subperm g'.symbols.nonterminals :=
    g.symbols.nonterminals_nodup.subperm fun nt hnt => h.within.nonterminals hnt
  obtain ⟨nts, hperm, hsublist⟩ := hnts
  let before := fun nt => (Filling.rowOf g sets nt).2.length
  let after := fun nt => (Filling.rowOf g' sets' nt).2.length
  have hrow : ∀ nt ∈ nts, before nt ≤ after nt := fun nt _ =>
    Filling.conflicts_rowOf_length_le (h.claims_subperm hg hfirst hfollow nt)
  calc
    (g.symbols.nonterminals.map before).sum
      = (nts.map before).sum := ((hperm.map before).sum_eq).symm
    _ ≤ (nts.map after).sum := List.sum_le_sum hrow
    _ ≤ (g'.symbols.nonterminals.map after).sum :=
        (hsublist.map after).sum_le_sum fun _ _ => Nat.zero_le _

/-- If there were conflicts, there are as many or more. -/
theorem Extends.table_conflicts
    (h : g.Extends g')
    (hg : g.WellFormed)
    {sets sets' : FirstFollow}
    (hsets : FirstFollow.ofGrammar g = .ok sets)
    (hsets' : FirstFollow.ofGrammar g' = .ok sets')
    (hfirst : sets.first.Le sets'.first)
    (hfollow : sets.follow.Le sets'.follow)
    {conflicts : List (Conflict SymbolId Nat)}
    (hconflicts : Table.ofGrammar g = .error (.conflicts conflicts)) :
    ∃ conflicts', Table.ofGrammar g' = .error (.conflicts conflicts') ∧
      conflicts.length ≤ conflicts'.length := by
  obtain ⟨hne, rfl⟩ := Table.ofGrammar_eq_conflicts hsets hconflicts
  have hle := h.conflicts_length_le hg hfirst hfollow
  refine ⟨(Filling.ofSets g' sets').conflicts, ?_, hle⟩
  refine Table.ofGrammar_of_conflicts hsets' fun hnil => ?_
  rw [hnil, List.length_nil, Nat.le_zero, List.length_eq_zero_iff] at hle
  exact hne hle

end

end Grammar

namespace Table

/-- **Declarations only add.**  Whatever else is declared after a grammar has a start symbol, with
or without success, the sets of the grammar are contained in the later ones, and a grammar that has
conflicts keeps at least as many of them. -/
theorem conflicts_remain
    {g : Grammar} {S : SymbolId}
    (hg : g.WellFormed)
    (hstart : g.start = .ok S)
    (ds : List Declaration)
    (hds : ∀ d ∈ ds, ∀ name, d ≠ .start name) :
    ∃ sets sets',
      FirstFollow.ofGrammar g = .ok sets ∧
      FirstFollow.ofGrammar (inTurn Grammar.ask g ds).2 = .ok sets' ∧
      (∀ A, ∀ x ∈ sets.first.get A, x ∈ sets'.first.get A) ∧
      (∀ A, ∀ x ∈ sets.follow.get A, x ∈ sets'.follow.get A) ∧
      ∀ conflicts, Table.ofGrammar g = .error (.conflicts conflicts) →
        ∃ conflicts', Table.ofGrammar (inTurn Grammar.ask g ds).2 = .error (.conflicts conflicts') ∧
          conflicts.length ≤ conflicts'.length := by
  obtain ⟨hg', h⟩ := hg.extends_asked hds
  generalize (inTurn Grammar.ask g ds).2 = g' at hg' h ⊢
  obtain ⟨_, _, _, hsets⟩ := FirstFollow.ofGrammar_eq hg hstart
  obtain ⟨_, _, _, hsets'⟩ := FirstFollow.ofGrammar_eq hg' (h.start S hstart)
  obtain ⟨hfirst, hfollow⟩ := FirstFollow.le_of_within hg hg' h.within
    ((h.start S hstart).trans hstart.symm) hsets hsets'
  exact ⟨_, _, hsets, hsets', hfirst, hfollow, fun _ =>
    h.table_conflicts hg hsets hsets' hfirst hfollow⟩

/-- Statements with an optional `else` have a conflict, and no later declaration takes it away:
neither the ones that fail, as the first and the last here, nor another name for the end marker, nor
more symbols and rules. -/
theorem conflicts_remain_danglingElse :
    ∃ conflicts, Table.ofGrammar (inTurn Grammar.ask Grammar.danglingElse
        [.terminal "if" "when", .endMarker "END", .nonterminal "F", .rule "E" "idF", .rule "F" "",
          .rule "S" "SE"]).2 = .error (.conflicts conflicts) ∧ 1 ≤ conflicts.length := by
  have hstart : Grammar.danglingElse.start = .ok 5 := by
    decide +kernel
  have hconflicts : Table.ofGrammar Grammar.danglingElse = .error (.conflicts [⟨6, 3, 2, 3⟩]) := by
    decide +kernel
  obtain ⟨_, _, _, _, _, _, hremain⟩ := conflicts_remain
    Grammar.reachable_danglingElse.wellFormed hstart [.terminal "if" "when", .endMarker "END",
      .nonterminal "F", .rule "E" "idF", .rule "F" "", .rule "S" "SE"] (by simp)
  exact hremain _ hconflicts

end Table
end PredictiveParsing

import PredictiveParsing.Proofs.FollowExact
import Mathlib.Tactic

/-!
# Grammars with more productions

A grammar is within another one when its symbols keep their numbers and kinds there and its
productions are among those of the other (`Grammar.Within`).  What can be derived in the one can be
derived in the other, and so the sets of the one are contained in those of the other
(`FirstFollow.le_of_within`).  The sets depend on nothing else: neither on the order of the
productions nor on how often one of them is repeated.
-/

namespace PredictiveParsing
namespace Grammar

section

variable {g g' : Grammar} {S A x : SymbolId}

/-- The symbols and the productions of the one grammar are there in the other. -/
structure Within (g g' : Grammar) : Prop where
  size_le : g.symbols.size ≤ g'.symbols.size
  isTerminal_eq : ∀ id < g.symbols.size, g'.isTerminal id = g.isTerminal id
  productions : ∀ p ∈ g.productions, p ∈ g'.productions

theorem Within.terminal
    (h : g.Within g')
    (hx : g.isTerminal x = true) :
    g'.isTerminal x = true :=
  (h.isTerminal_eq x (SymbolTable.lt_size_of_isTerminal hx)).trans hx

theorem Within.nonterminals
    (h : g.Within g')
    (hA : A ∈ g.symbols.nonterminals) :
    A ∈ g'.symbols.nonterminals := by
  obtain ⟨hlt, hterm⟩ := SymbolTable.mem_nonterminals.1 hA
  exact SymbolTable.mem_nonterminals.2
    ⟨Nat.lt_of_lt_of_le hlt h.size_le, (h.isTerminal_eq A hlt).trans hterm⟩

theorem Within.derives
    (h : g.Within g')
    {α β : List SymbolId}
    (hderives : g.Derives α β) :
    g'.Derives α β := by
  refine Relation.ReflTransGen.mono (fun α β hstep => ?_) _ _ hderives
  obtain ⟨hp, before, after⟩ := hstep
  exact .expand (h.productions _ hp) before after

theorem Within.begins
    (h : g.Within g')
    {α : List SymbolId}
    (hx : g.Begins α x) :
    g'.Begins α x := by
  rcases hx with ⟨heps, hvanish⟩ | ⟨hne, hterm, β, hβ⟩
  · exact Or.inl ⟨heps, h.derives hvanish⟩
  · exact Or.inr ⟨hne, h.terminal hterm, β, h.derives hβ⟩

theorem Within.followed
    (h : g.Within g')
    (hx : g.Followed S A x) :
    g'.Followed S A x := by
  rcases hx with ⟨hterm, B, hB, before, after, hderives⟩ | ⟨rfl, before, hderives⟩
  · exact Or.inl ⟨h.terminal hterm, B, h.nonterminals hB, before, after, h.derives hderives⟩
  · exact Or.inr ⟨rfl, before, h.derives hderives⟩

end

end Grammar

namespace FirstFollow

section

variable {g g' : Grammar} {sets sets' : FirstFollow} {S A x : SymbolId}

/-- There is a set for each non-terminal and for no other symbol. -/
theorem keys_of_ofGrammar
    (hg : g.WellFormed)
    (h : ofGrammar g = .ok sets) :
    sets.first.keys = g.symbols.nonterminals ∧ sets.follow.keys = g.symbols.nonterminals := by
  obtain ⟨S, hstart, _⟩ := closed_of_ofGrammar hg h
  obtain ⟨follow, _, hsettles, hok⟩ := ofGrammar_eq hg hstart
  rw [h] at hok
  cases hok
  have hfirst := (Grammar.firstSets_settles hg).invariant
    (P := fun m => m.Over g.symbols.nonterminals (max g.symbols.size 2))
    (fun _ hm => Grammar.over_firstPass hg (le_refl _) hm) (SetMap.over_blank _ _)
  have hfollow := hsettles.invariant
    (P := fun m => m.Over g.symbols.nonterminals (max g.symbols.size 2))
    (fun _ hm => Grammar.over_followPass hg (le_refl _) hfirst.lt_width hm)
    (Grammar.over_followSeed hstart (le_refl _))
  exact ⟨hfirst.keys_eq, hfollow.keys_eq⟩

theorem mem_first_iff
    (hg : g.WellFormed)
    (h : ofGrammar g = .ok sets) :
    x ∈ sets.first.get A ↔ A ∈ g.symbols.nonterminals ∧ g.Begins [A] x := by
  rw [first_of_ofGrammar h]
  constructor
  · intro hx
    refine ⟨?_, Grammar.begins_of_mem_firstSets hg hx⟩
    rw [← (keys_of_ofGrammar hg h).1, first_of_ofGrammar h]
    exact SetMap.mem_keys_of_mem_get hx
  · rintro ⟨hA, hx⟩
    have hterm := (SymbolTable.mem_nonterminals.1 hA).2
    rw [← hg.form_singleton hterm, ← Grammar.mem_firstOf_firstSets_iff hg] at hx
    exact (Grammar.mem_firstOf_singleton (hg.ne_epsilon hterm) hterm).1 hx

theorem mem_follow_iff
    (hg : g.WellFormed)
    (h : ofGrammar g = .ok sets)
    (hstart : g.start = .ok S) :
    x ∈ sets.follow.get A ↔ A ∈ g.symbols.nonterminals ∧ g.Followed S A x := by
  constructor
  · intro hx
    refine ⟨?_, ?_⟩
    · rw [← (keys_of_ofGrammar hg h).2]
      exact SetMap.mem_keys_of_mem_get hx
    · obtain ⟨follow, _, hsettles, hok⟩ := ofGrammar_eq hg hstart
      rw [h] at hok
      cases hok
      exact Grammar.followed_of_settles hg (fun _ _ => Grammar.begins_of_mem_firstSets hg)
        hsettles A x hx
  · rintro ⟨hA, hx⟩
    obtain ⟨S', hstart', hclosed, hfollow, hmarker⟩ := closed_of_ofGrammar hg h
    obtain rfl : S = S' := Except.ok.inj (hstart.symm.trans hstart')
    exact Grammar.mem_follow_of_followed hg hclosed hfollow hmarker
      (SymbolTable.mem_nonterminals.1 hA).2 hx

/-- The sets of a grammar are contained in those of every grammar that it is within. -/
theorem le_of_within
    (hg : g.WellFormed)
    (hg' : g'.WellFormed)
    (h : g.Within g')
    (hstart : g'.start = g.start)
    (hsets : ofGrammar g = .ok sets)
    (hsets' : ofGrammar g' = .ok sets') :
    sets.first.Le sets'.first ∧ sets.follow.Le sets'.follow := by
  obtain ⟨S, hS, _⟩ := closed_of_ofGrammar hg hsets
  constructor
  · intro A x hx
    obtain ⟨hA, hbegins⟩ := (mem_first_iff hg hsets).1 hx
    exact (mem_first_iff hg' hsets').2 ⟨h.nonterminals hA, h.begins hbegins⟩
  · intro A x hx
    obtain ⟨hA, hfollowed⟩ := (mem_follow_iff hg hsets hS).1 hx
    exact (mem_follow_iff hg' hsets' (hstart.trans hS)).2
      ⟨h.nonterminals hA, h.followed hfollowed⟩

end

end FirstFollow
end PredictiveParsing

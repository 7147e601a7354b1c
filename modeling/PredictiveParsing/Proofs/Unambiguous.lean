import PredictiveParsing.Proofs.Prediction
import Mathlib.Tactic

/-!
# A grammar with a table is unambiguous

A leftmost step replaces the first non-terminal of a form, and so a form leaves nothing open but the
production (`Grammar.LeftmostStep.unique`).  When the form goes on to derive a word, the terminals
before that non-terminal are the beginning of the word, and the production exposes the terminal after
them, or the end marker where the word is at its end.  With a built table this settles the production,
too: it is the one in a cell that depends on the form and the word only (`Table.get?_of_leftmostStep`).

Two leftmost derivations of one word are therefore the same, step by step.  Productions that look the
same but have different indices are different here: they would claim the same cells.
-/

namespace PredictiveParsing

namespace Grammar

section

variable {g : Grammar} {A : SymbolId} {ix : Nat} {α β β' before : List SymbolId}

/-- The first non-terminal of a form, with what stands before it and after it. -/
theorem split_at_nonterminal
    (hbefore : ∀ id ∈ before, g.isTerminal id = true)
    (hA : g.isTerminal A = false)
    (after : List SymbolId) :
    (before ++ A :: after).takeWhile g.isTerminal = before ∧
      (before ++ A :: after).dropWhile g.isTerminal = A :: after := by
  have hA : ¬ g.isTerminal A = true := by
    simp [hA]
  constructor
  · rw [List.takeWhile_append_of_pos hbefore, List.takeWhile_cons_of_neg hA, List.append_nil]
  · rw [List.dropWhile_append_of_pos hbefore, List.dropWhile_cons_of_neg hA]

/-- A form and a production leave no choice. -/
theorem LeftmostStep.unique
    (hg : g.WellFormed)
    (h : g.LeftmostStep ix α β)
    (h' : g.LeftmostStep ix α β') :
    β = β' := by
  have hresult : ∀ {γ}, g.LeftmostStep ix α γ → ∃ p, g.productions[ix]? = some p ∧
      γ = α.takeWhile g.isTerminal ++ form p.rhs ++ (α.dropWhile g.isTerminal).tail := by
    rintro _ ⟨hp, hbefore, after⟩
    have hlhs := hg.lhs_nonterminal _ (List.mem_of_getElem? hp)
    obtain ⟨htake, hdrop⟩ := split_at_nonterminal hbefore hlhs after
    refine ⟨_, hp, ?_⟩
    rw [htake, hdrop, List.tail_cons]
  obtain ⟨p, hp, rfl⟩ := hresult h
  obtain ⟨p', hp', rfl⟩ := hresult h'
  obtain rfl : p = p' := Option.some.inj (hp.symm.trans hp')
  rfl

/-- A word of terminals is at the end of its derivation. -/
theorem LeftmostStep.not_terminals
    (hg : g.WellFormed)
    (h : g.LeftmostStep ix α β) :
    ¬ ∀ id ∈ α, g.isTerminal id = true := by
  intro hterminals
  cases h with
  | @expand p _ hp _ _ =>
      have hlhs := hterminals p.lhs (by simp)
      rw [hg.lhs_nonterminal p (List.mem_of_getElem? hp)] at hlhs
      cases hlhs

end

end Grammar

namespace Table

section

variable {g : Grammar} {t : Table} {S : SymbolId} {ix jx : Nat} {ixs jxs : List Nat}
  {α β γ word : List SymbolId}

/-- The production of a leftmost step towards a word is the one in the cell of the first non-terminal,
for the terminal that the word has in the place of it. -/
theorem get?_of_leftmostStep
    (hg : g.WellFormed)
    (ht : Table.ofGrammar g = .ok t)
    (hstart : g.start = .ok S)
    (hα : g.Derives [S] α)
    (hstep : g.LeftmostStep ix α β)
    (hβ : g.Derives β word)
    (hword : ∀ id ∈ word, g.isTerminal id = true) :
    ∃ A ∈ (α.dropWhile g.isTerminal).head?,
      t.get? A ((word.drop (α.takeWhile g.isTerminal).length).headD endMarker) = some ix := by
  cases hstep with
  | @expand p before hp hbefore after =>
      obtain ⟨htake, hdrop⟩ :=
        Grammar.split_at_nonterminal hbefore
          (hg.lhs_nonterminal p (List.mem_of_getElem? hp)) after
      rw [htake, hdrop]
      refine ⟨p.lhs, rfl, ?_⟩
      obtain ⟨hlt, hterm⟩ := Grammar.start_eq_ok hstart
      have hnone : epsilon ∉ before ++ p.lhs :: after :=
        Grammar.epsilon_not_mem_of_derives hg (SymbolTable.mem_nonterminals.2 ⟨hlt, hterm⟩) hα
      simp only [List.mem_append, List.mem_cons, not_or] at hnone
      -- the word is spelled, and the terminals before the non-terminal are its beginning
      have hform : form (before ++ (p.rhs ++ after)) = before ++ form p.rhs ++ after := by
        simp [form_eq_self hnone.1, form_eq_self hnone.2.2]
      obtain ⟨later, rfl, hspells⟩ :=
        (Grammar.spells_of_derives_word (hform ▸ hβ) hword).of_terminals hg fun id hid =>
          ⟨hbefore id hid, fun heq => hnone.1 (heq ▸ hid)⟩
      rw [List.drop_left]
      exact get?_of_exposes hg ht hstart hp (hα.form_append_left hg hstart) hspells.exposes_head

/-- Two leftmost steps of a form towards one word use the same production. -/
theorem leftmostStep_unique
    (hg : g.WellFormed)
    (ht : Table.ofGrammar g = .ok t)
    (hstart : g.start = .ok S)
    (hα : g.Derives [S] α)
    (hword : ∀ id ∈ word, g.isTerminal id = true)
    (hstep : g.LeftmostStep ix α β)
    (hβ : g.Derives β word)
    (hstep' : g.LeftmostStep jx α γ)
    (hγ : g.Derives γ word) :
    ix = jx := by
  obtain ⟨A, hA, hcell⟩ := get?_of_leftmostStep hg ht hstart hα hstep hβ hword
  obtain ⟨B, hB, hcell'⟩ := get?_of_leftmostStep hg ht hstart hα hstep' hγ hword
  obtain rfl : A = B := Option.some.inj (hA.symm.trans hB)
  exact Option.some.inj (hcell.symm.trans hcell')

/-- From a form of the grammar, a word has one leftmost derivation at most. -/
theorem leftmost_unique
    (hg : g.WellFormed)
    (ht : Table.ofGrammar g = .ok t)
    (hstart : g.start = .ok S)
    (hα : g.Derives [S] α)
    (hword : ∀ id ∈ word, g.isTerminal id = true)
    (h : g.Leftmost ixs α word)
    (h' : g.Leftmost jxs α word) :
    ixs = jxs := by
  induction h generalizing jxs with
  | refl α =>
      cases h' with
      | refl =>
          rfl
      | step hstep _ =>
          exact absurd hword (hstep.not_terminals hg)
  | step hstep hrest ih =>
      cases h' with
      | refl =>
          exact absurd hword (hstep.not_terminals hg)
      | step hstep' hrest' =>
          obtain rfl := leftmostStep_unique hg ht hstart hα hword hstep hrest.derives hstep'
            hrest'.derives
          obtain rfl := hstep.unique hg hstep'
          rw [ih (hα.trans (.single hstep.produces)) hword hrest']

/-- **A grammar with a table is unambiguous.**  Every word of terminals has one leftmost derivation
from the start symbol at most, as a sequence of indices of productions.  In other words, a grammar
with a word that has two of them makes the table have conflicts. -/
theorem unambiguous
    (hg : g.Reachable) :
    (∀ t, Table.ofGrammar g = .ok t →
      ∀ S word ixs jxs, g.start = .ok S → (∀ id ∈ word, g.isTerminal id = true) →
        g.Leftmost ixs [S] word → g.Leftmost jxs [S] word → ixs = jxs) ∧
    (∀ S word ixs jxs, g.start = .ok S → (∀ id ∈ word, g.isTerminal id = true) →
      g.Leftmost ixs [S] word → g.Leftmost jxs [S] word → ixs ≠ jxs →
        ∃ conflicts, conflicts ≠ [] ∧ Table.ofGrammar g = .error (.conflicts conflicts)) := by
  constructor
  · intro t ht S word ixs jxs hstart hword h h'
    exact leftmost_unique hg.wellFormed ht hstart (Grammar.Derives.refl [S]) hword h h'
  · intro S word ixs jxs hstart hword h h' hne
    refine exists_conflicts hg.wellFormed hstart fun t ht => hne ?_
    exact leftmost_unique hg.wellFormed ht hstart (Grammar.Derives.refl [S]) hword h h'

end

end Table

/-- Statements with an `else` that may belong to either of two statements, with the numbers 2 `if`,
3 `else`, 4 `id`, 5 `S` and 6 `E`. -/
def Grammar.danglingElse : Grammar where
  symbols :=
    { symbols :=
        [SymbolTable.endMarkerSymbol "$", ⟨epsilonName, .terminal epsilonName⟩,
          ⟨"if", .terminal "if"⟩, ⟨"else", .terminal "else"⟩, ⟨"id", .terminal "[a-z]+"⟩,
          ⟨"S", .nonterminal⟩, ⟨"E", .nonterminal⟩] }
  productions := [⟨5, [2, 5, 6]⟩, ⟨5, [4]⟩, ⟨6, [3, 5]⟩, ⟨6, [1]⟩]
  startName := some "S"

theorem Grammar.reachable_danglingElse :
    Grammar.danglingElse.Reachable := by
  have hload : Grammar.ofText
      ("terminal if if;\nterminal else else;\nterminal id [a-z]+;\nstart with S;\n;\n" ++
        "S -> ifSE;\nS -> id;\nE -> elseS;\nE -> EPSILON;\n;\n") =
        .ok Grammar.danglingElse := by
    cbv
  exact Grammar.reachable_of_ofText hload

/-- A sum of one identifier has one leftmost derivation.  The word `if if id else id` has two, by the
productions 2 and 3 in either order, and so the grammar of statements has no table. -/
theorem Table.unambiguous_danglingElse :
    (∀ ixs, Grammar.sums.Leftmost ixs [4] [3] → ixs = [0, 3, 2]) ∧
      ∃ conflicts, conflicts ≠ [] ∧
        Table.ofGrammar Grammar.danglingElse = .error (.conflicts conflicts) := by
  constructor
  · have hid : Grammar.sums.Leftmost [0, 3, 2] [4] [3] := by
      refine .expand [] [] (p := ⟨4, [6, 5]⟩) rfl (by decide) ?_
      refine .expand [] [5] (p := ⟨6, [3]⟩) rfl (by decide) ?_
      exact .expand [3] [] (p := ⟨5, [1]⟩) rfl (by decide) (.refl [3])
    intro ixs h
    exact (unambiguous Grammar.reachable_sums).1 _ ofGrammar_sums 4 [3] _ _ (by decide +kernel)
      (by decide) h hid
  · -- both derivations begin in the same way, and then one of two `E` derives the `else`
    have hifs : Grammar.danglingElse.Leftmost [0, 0, 1] [5] [2, 2, 4, 6, 6] := by
      refine .expand [] [] (p := ⟨5, [2, 5, 6]⟩) rfl (by decide) ?_
      refine .expand [2] [6] (p := ⟨5, [2, 5, 6]⟩) rfl (by decide) ?_
      exact .expand [2, 2] [6, 6] (p := ⟨5, [4]⟩) rfl (by decide) (.refl _)
    have hinner : Grammar.danglingElse.Leftmost [2, 1, 3] [2, 2, 4, 6, 6] [2, 2, 4, 3, 4] := by
      refine .expand [2, 2, 4] [6] (p := ⟨6, [3, 5]⟩) rfl (by decide) ?_
      refine .expand [2, 2, 4, 3] [6] (p := ⟨5, [4]⟩) rfl (by decide) ?_
      exact .expand [2, 2, 4, 3, 4] [] (p := ⟨6, [1]⟩) rfl (by decide) (.refl _)
    have houter : Grammar.danglingElse.Leftmost [3, 2, 1] [2, 2, 4, 6, 6] [2, 2, 4, 3, 4] := by
      refine .expand [2, 2, 4] [6] (p := ⟨6, [1]⟩) rfl (by decide) ?_
      refine .expand [2, 2, 4] [] (p := ⟨6, [3, 5]⟩) rfl (by decide) ?_
      exact .expand [2, 2, 4, 3] [] (p := ⟨5, [4]⟩) rfl (by decide) (.refl _)
    exact (unambiguous Grammar.reachable_danglingElse).2 5 [2, 2, 4, 3, 4] _ _
      (by decide +kernel) (by decide) (hifs.trans hinner) (hifs.trans houter) (by decide)

end PredictiveParsing

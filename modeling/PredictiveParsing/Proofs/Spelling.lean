import PredictiveParsing.Proofs.Derivation
import Mathlib.Tactic

/-!
# Spelling a word from a stack

A stack of symbols is worked off from the top, as a parser would do it that always guesses right:
`EPSILON` is dropped, a terminal is emitted, and a non-terminal is replaced by the right-hand side of
one of its productions, `EPSILON` signs and all.  `Grammar.Spells` says that a word is emitted in this
way and what is left of the stack.

A derivation may replace its non-terminals in any order.  Still, what it has derived can be spelled
(`Grammar.spells_of_derives`): a step of the derivation can be put off until its non-terminal comes
to the top.
-/

namespace PredictiveParsing
namespace Grammar

/-- A stack emits a word from its top and leaves the rest. -/
inductive Spells (g : Grammar) : List SymbolId → List SymbolId → List SymbolId → Prop
  | done (stack : List SymbolId) : Spells g stack [] stack
  | drop
      {stack word rest : List SymbolId}
      (h : Spells g stack word rest) :
      Spells g (epsilon :: stack) word rest
  | emit
      {a : SymbolId} {stack word rest : List SymbolId}
      (heps : a ≠ epsilon)
      (hterm : g.isTerminal a = true)
      (h : Spells g stack word rest) :
      Spells g (a :: stack) (a :: word) rest
  | expand
      {p : Production} {stack word rest : List SymbolId}
      (hp : p ∈ g.productions)
      (h : Spells g (p.rhs ++ stack) word rest) :
      Spells g (p.lhs :: stack) word rest

section

variable {g : Grammar} {stack word rest : List SymbolId}

theorem Spells.append
    (h : g.Spells stack word rest)
    (below : List SymbolId) :
    g.Spells (stack ++ below) word (rest ++ below) := by
  induction h with
  | done stack =>
      exact Spells.done _
  | drop _ ih =>
      exact Spells.drop ih
  | emit heps hterm _ ih =>
      exact Spells.emit heps hterm ih
  | expand hp _ ih =>
      rw [List.append_assoc] at ih
      exact Spells.expand hp ih

/-- What is spelled is derived. -/
theorem Spells.derives
    (hg : g.WellFormed)
    (h : g.Spells stack word rest) :
    g.Derives (form stack) (word ++ form rest) := by
  induction h with
  | done stack =>
      exact Derives.refl _
  | drop _ ih =>
      rw [form_epsilon_cons]
      exact ih
  | @emit a _ _ _ heps _ _ ih =>
      rw [form_cons heps]
      exact ih.append_left [a]
  | @expand p stack _ _ hp _ ih =>
      have hlhs := hg.ne_epsilon (hg.lhs_nonterminal p hp)
      rw [form_append] at ih
      rw [form_cons hlhs]
      exact (Derives.of_production hp (form stack)).trans ih

/-- The symbols of a form are in any stack of that form. -/
theorem exists_of_form_eq
    {before after : List SymbolId} {id : SymbolId}
    (h : form stack = before ++ id :: after) :
    ∃ above below, stack = above ++ id :: below ∧ form above = before ∧ form below = after := by
  obtain ⟨above, tail, rfl, habove, htail⟩ := List.filter_eq_append_iff.1 h
  obtain ⟨dropped, below, rfl, hdropped, _, hbelow⟩ := List.filter_eq_cons_iff.1 htail
  refine ⟨above ++ dropped, below, by simp, ?_, hbelow⟩
  have hnone : form dropped = [] := by
    refine List.filter_eq_nil_iff.2 ?_
    simpa using hdropped
  rw [form_append, hnone, List.append_nil]
  exact habove

/-- A form is spelled as far as it begins with terminals, and the next symbol comes to the top. -/
theorem spells_of_form_eq
    {after : List SymbolId}
    (h : form stack = word ++ after)
    (hword : ∀ id ∈ word, g.isTerminal id = true) :
    ∃ rest, g.Spells stack word rest ∧ rest.head? = after.head? := by
  induction stack generalizing word with
  | nil =>
      obtain ⟨rfl, rfl⟩ := List.append_eq_nil_iff.1 h.symm
      exact ⟨[], Spells.done [], rfl⟩
  | cons id stack ih =>
      by_cases heps : id = epsilon
      · subst heps
        rw [form_epsilon_cons] at h
        obtain ⟨rest, hspells, hhead⟩ := ih h hword
        exact ⟨rest, hspells.drop, hhead⟩
      · rw [form_cons heps] at h
        cases word with
        | nil =>
            refine ⟨id :: stack, Spells.done _, ?_⟩
            rw [← (show id :: form stack = after from h)]
            rfl
        | cons a word =>
            obtain ⟨rfl, htail⟩ := List.cons_eq_cons.1 h
            obtain ⟨rest, hspells, hhead⟩ :=
              ih htail fun other hother => hword other (List.mem_cons_of_mem _ hother)
            exact ⟨rest, hspells.emit heps (hword id List.mem_cons_self), hhead⟩

/-- A production that was applied inside a stack can be left to its turn. -/
theorem Spells.postpone
    {p : Production}
    (hp : p ∈ g.productions)
    {above below : List SymbolId}
    (h : g.Spells (above ++ (p.rhs ++ below)) word rest) :
    ∃ rest', g.Spells (above ++ p.lhs :: below) word rest' ∧ rest'.head? = rest.head? := by
  generalize hstack : above ++ (p.rhs ++ below) = stack at h
  -- when nothing is left above the production, its turn has come
  induction h generalizing above with
  | done stack =>
      subst hstack
      cases above with
      | nil =>
          exact ⟨_, (Spells.done _).expand hp, rfl⟩
      | cons id above =>
          exact ⟨_, Spells.done _, rfl⟩
  | drop h ih =>
      cases above with
      | nil =>
          have hall := h.drop
          rw [← hstack] at hall
          exact ⟨_, hall.expand hp, rfl⟩
      | cons id above =>
          obtain ⟨rfl, htail⟩ := List.cons_eq_cons.1 hstack
          obtain ⟨rest', hspells, hhead⟩ := ih htail
          exact ⟨rest', hspells.drop, hhead⟩
  | emit heps hterm h ih =>
      cases above with
      | nil =>
          have hall := h.emit heps hterm
          rw [← hstack] at hall
          exact ⟨_, hall.expand hp, rfl⟩
      | cons id above =>
          obtain ⟨rfl, htail⟩ := List.cons_eq_cons.1 hstack
          obtain ⟨rest', hspells, hhead⟩ := ih htail
          exact ⟨rest', hspells.emit heps hterm, hhead⟩
  | @expand q stack _ _ hq h ih =>
      cases above with
      | nil =>
          have hall := h.expand hq
          rw [← hstack] at hall
          exact ⟨_, hall.expand hp, rfl⟩
      | cons id above =>
          obtain ⟨rfl, rfl⟩ := List.cons_eq_cons.1 hstack
          have hstack : (q.rhs ++ above) ++ (p.rhs ++ below) =
              q.rhs ++ (above ++ (p.rhs ++ below)) :=
            List.append_assoc _ _ _
          obtain ⟨rest', hspells, hhead⟩ := ih hstack
          rw [List.append_assoc] at hspells
          exact ⟨rest', hspells.expand hq, hhead⟩

/-- The terminals at the beginning of a derived form can be spelled, and the symbol after them comes
to the top. -/
theorem spells_of_derives
    {after : List SymbolId}
    (h : g.Derives (form stack) (word ++ after))
    (hword : ∀ id ∈ word, g.isTerminal id = true) :
    ∃ rest, g.Spells stack word rest ∧ rest.head? = after.head? := by
  generalize hform : form stack = α at h
  induction h using Relation.ReflTransGen.head_induction_on generalizing stack with
  | refl =>
      exact spells_of_form_eq hform hword
  | head hstep _ ih =>
      cases hstep with
      | @expand p hp before after =>
          obtain ⟨above, below, rfl, rfl, rfl⟩ := exists_of_form_eq hform
          have hstack : form (above ++ (p.rhs ++ below)) =
              form above ++ form p.rhs ++ form below := by
            simp
          obtain ⟨rest, hspells, hhead⟩ := ih hstack
          obtain ⟨rest', hspells', hhead'⟩ := hspells.postpone hp
          exact ⟨rest', hspells', hhead'.trans hhead⟩

/-- A word that is derived can be spelled to the end. -/
theorem spells_of_derives_word
    (h : g.Derives (form stack) word)
    (hword : ∀ id ∈ word, g.isTerminal id = true) :
    g.Spells stack word [] := by
  rw [← List.append_nil word] at h
  obtain ⟨rest, hspells, hhead⟩ := spells_of_derives h hword
  rwa [List.head?_eq_none_iff.1 hhead] at hspells

/-- Terminals on top of a stack are the beginning of every word that it spells to the end. -/
theorem Spells.of_terminals
    (hg : g.WellFormed)
    {before : List SymbolId}
    (hbefore : ∀ id ∈ before, g.isTerminal id = true ∧ id ≠ epsilon)
    (h : g.Spells (before ++ stack) word []) :
    ∃ later, word = before ++ later ∧ g.Spells stack later [] := by
  induction before generalizing word with
  | nil =>
      exact ⟨word, rfl, h⟩
  | cons a before ih =>
      obtain ⟨hterm, heps⟩ := hbefore a List.mem_cons_self
      rw [List.cons_append] at h
      cases h with
      | drop =>
          exact absurd rfl heps
      | emit _ _ h =>
          obtain ⟨later, rfl, hspells⟩ :=
            ih (fun id hid => hbefore id (List.mem_cons_of_mem _ hid)) h
          exact ⟨later, rfl, hspells⟩
      | expand hp =>
          rw [hg.lhs_nonterminal _ hp] at hterm
          cases hterm

end

end Grammar
end PredictiveParsing

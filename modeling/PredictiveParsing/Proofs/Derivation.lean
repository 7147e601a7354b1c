import PredictiveParsing.Proofs.Reachable
import Mathlib.Tactic

/-!
# Derivations

A sentential form is a sequence of symbols without `EPSILON`: the sign for the empty text stands for
nothing, wherever it is written.  `Grammar.Produces` replaces one non-terminal of a form by the form
of a right-hand side, and `Grammar.Derives` does so any number of times.

`Grammar.Leftmost` replaces the leftmost non-terminal each time and keeps the list of the productions
that were used, by their indices.

The words of a grammar are the terminals that its start symbol derives (`Grammar.Generates`).  A
grammar is `Grammar.Productive` if every non-terminal derives some terminals, possibly none, and
`Grammar.Reduced` if besides each of them comes up in a form of the start symbol.
-/

namespace PredictiveParsing

/-- The sentential form of a sequence of symbols: `EPSILON` is left out. -/
def form (ids : List SymbolId) : List SymbolId :=
  ids.filter fun id => id ≠ epsilon

@[simp] theorem form_nil :
    form [] = [] := by
  rfl

@[simp] theorem form_epsilon_cons
    (ids : List SymbolId) :
    form (epsilon :: ids) = form ids := by
  simp [form]

theorem form_cons
    {id : SymbolId} (hid : id ≠ epsilon)
    (ids : List SymbolId) :
    form (id :: ids) = id :: form ids := by
  simp [form, hid]

theorem form_eq_self
    {ids : List SymbolId}
    (h : epsilon ∉ ids) :
    form ids = ids := by
  refine List.filter_eq_self.2 fun id hid => ?_
  have hne : id ≠ epsilon := fun heq => h (heq ▸ hid)
  simpa using hne

@[simp] theorem form_append
    (ids others : List SymbolId) :
    form (ids ++ others) = form ids ++ form others := by
  simp [form]

namespace Grammar

section

variable {g : Grammar}

theorem WellFormed.ne_epsilon
    (hg : g.WellFormed)
    {id : SymbolId}
    (hid : g.isTerminal id = false) :
    id ≠ epsilon := by
  rintro rfl
  rw [hg.epsilon_terminal] at hid
  cases hid

theorem WellFormed.form_singleton
    (hg : g.WellFormed)
    {id : SymbolId}
    (hid : g.isTerminal id = false) :
    form [id] = [id] := by
  rw [form_cons (hg.ne_epsilon hid), form_nil]

/-- One step of a derivation: a production is applied somewhere in a form. -/
inductive Produces (g : Grammar) : List SymbolId → List SymbolId → Prop
  | expand
      {p : Production}
      (hp : p ∈ g.productions)
      (before after : List SymbolId) :
      Produces g (before ++ p.lhs :: after) (before ++ form p.rhs ++ after)

/-- Any number of steps. -/
def Derives (g : Grammar) : List SymbolId → List SymbolId → Prop :=
  Relation.ReflTransGen g.Produces

theorem Produces.append_left
    {α β : List SymbolId}
    (h : g.Produces α β)
    (before : List SymbolId) :
    g.Produces (before ++ α) (before ++ β) := by
  obtain ⟨hp, u, v⟩ := h
  simpa using Produces.expand hp (before ++ u) v

theorem Produces.append_right
    {α β : List SymbolId}
    (h : g.Produces α β)
    (after : List SymbolId) :
    g.Produces (α ++ after) (β ++ after) := by
  obtain ⟨hp, u, v⟩ := h
  simpa using Produces.expand hp u (v ++ after)

theorem Produces.of_singleton
    {A : SymbolId} {β : List SymbolId}
    (h : g.Produces [A] β) :
    ∃ p ∈ g.productions, p.lhs = A ∧ β = form p.rhs := by
  generalize hα : [A] = α at h
  obtain ⟨hp, before, after⟩ := h
  cases before with
  | nil =>
      obtain ⟨rfl, rfl⟩ := List.cons_eq_cons.1 hα
      exact ⟨_, hp, rfl, by simp⟩
  | cons id before =>
      simp at hα

namespace Derives

theorem refl
    (α : List SymbolId) :
    g.Derives α α :=
  Relation.ReflTransGen.refl

theorem single
    {α β : List SymbolId}
    (h : g.Produces α β) :
    g.Derives α β :=
  Relation.ReflTransGen.single h

theorem trans
    {α β γ : List SymbolId}
    (h₁ : g.Derives α β)
    (h₂ : g.Derives β γ) :
    g.Derives α γ :=
  Relation.ReflTransGen.trans h₁ h₂

theorem append_left
    {α β : List SymbolId}
    (h : g.Derives α β)
    (before : List SymbolId) :
    g.Derives (before ++ α) (before ++ β) := by
  induction h with
  | refl =>
      exact refl _
  | tail _ hstep ih =>
      exact ih.trans (single (hstep.append_left before))

theorem append_right
    {α β : List SymbolId}
    (h : g.Derives α β)
    (after : List SymbolId) :
    g.Derives (α ++ after) (β ++ after) := by
  induction h with
  | refl =>
      exact refl _
  | tail _ hstep ih =>
      exact ih.trans (single (hstep.append_right after))

/-- A production is a derivation, also in front of other symbols. -/
theorem of_production
    {p : Production}
    (hp : p ∈ g.productions)
    (after : List SymbolId) :
    g.Derives (p.lhs :: after) (form p.rhs ++ after) := by
  simpa using single (Produces.expand hp [] after)

/-- The top of a stack at the end of a form may be replaced by what it derives. -/
theorem replace_top
    {α before new below : List SymbolId} {top : SymbolId}
    (h : g.Derives α (before ++ form (top :: below)))
    (hnew : g.Derives (form [top]) (form new)) :
    g.Derives α (before ++ form (new ++ below)) := by
  have hsplit : form (top :: below) = form [top] ++ form below :=
    form_append [top] below
  rw [hsplit] at h
  rw [form_append]
  exact h.trans ((hnew.append_right (form below)).append_left before)

/-- A symbol that no right-hand side mentions, `EPSILON` signs apart, is not derived. -/
theorem not_mem
    {α β : List SymbolId} {id : SymbolId}
    (h : g.Derives α β)
    (hfree : ∀ p ∈ g.productions, id ∉ form p.rhs)
    (hα : id ∉ α) :
    id ∉ β := by
  induction h with
  | refl =>
      exact hα
  | tail _ hstep ih =>
      obtain ⟨hp, before, after⟩ := hstep
      simp only [List.mem_append, List.mem_cons, not_or] at ih ⊢
      exact ⟨⟨ih.1, hfree _ hp⟩, ih.2.2⟩

end Derives

/-- One leftmost step, by the production of an index. -/
inductive LeftmostStep (g : Grammar) : Nat → List SymbolId → List SymbolId → Prop
  | expand
      {ix : Nat} {p : Production} {before : List SymbolId}
      (hp : g.productions[ix]? = some p)
      (hbefore : ∀ id ∈ before, g.isTerminal id = true)
      (after : List SymbolId) :
      LeftmostStep g ix (before ++ p.lhs :: after) (before ++ form p.rhs ++ after)

/-- A leftmost derivation by the productions of a list of indices. -/
inductive Leftmost (g : Grammar) : List Nat → List SymbolId → List SymbolId → Prop
  | refl (α : List SymbolId) : Leftmost g [] α α
  | step
      {ix : Nat} {ixs : List Nat} {α β γ : List SymbolId}
      (hstep : g.LeftmostStep ix α β)
      (hrest : Leftmost g ixs β γ) :
      Leftmost g (ix :: ixs) α γ

theorem LeftmostStep.produces
    {ix : Nat} {α β : List SymbolId}
    (h : g.LeftmostStep ix α β) :
    g.Produces α β := by
  obtain ⟨hp, _, after⟩ := h
  exact Produces.expand (List.mem_of_getElem? hp) _ after

/-- A derivation may be told from its first form on, with the place where each step is made. -/
theorem Leftmost.expand
    {ix : Nat} {ixs : List Nat} {p : Production} {γ : List SymbolId}
    (before after : List SymbolId)
    (hp : g.productions[ix]? = some p)
    (hbefore : ∀ id ∈ before, g.isTerminal id = true)
    (hrest : g.Leftmost ixs (before ++ form p.rhs ++ after) γ) :
    g.Leftmost (ix :: ixs) (before ++ p.lhs :: after) γ :=
  Leftmost.step (LeftmostStep.expand hp hbefore after) hrest

theorem Leftmost.trans
    {ixs jxs : List Nat} {α β γ : List SymbolId}
    (h₁ : g.Leftmost ixs α β)
    (h₂ : g.Leftmost jxs β γ) :
    g.Leftmost (ixs ++ jxs) α γ := by
  induction h₁ with
  | refl =>
      exact h₂
  | step hstep _ ih =>
      exact Leftmost.step hstep (ih h₂)

theorem Leftmost.derives
    {ixs : List Nat} {α β : List SymbolId}
    (h : g.Leftmost ixs α β) :
    g.Derives α β := by
  induction h with
  | refl α =>
      exact Derives.refl α
  | step hstep _ ih =>
      exact (Derives.single hstep.produces).trans ih

/-- A production is a derivation between forms. -/
theorem WellFormed.derives_rhs
    (hg : g.WellFormed)
    {p : Production}
    (hp : p ∈ g.productions) :
    g.Derives (form [p.lhs]) (form p.rhs) := by
  rw [hg.form_singleton (hg.lhs_nonterminal p hp)]
  simpa using Derives.of_production hp []

/-! ### Words -/

/-- A word of the grammar: terminals, derived by the start symbol. -/
def Generates (g : Grammar) (word : List SymbolId) : Prop :=
  ∃ S, g.start = .ok S ∧ g.Derives [S] word ∧ ∀ id ∈ word, g.isTerminal id = true

/-- Every non-terminal derives some word of terminals. -/
def Productive (g : Grammar) : Prop :=
  ∀ A ∈ g.symbols.nonterminals,
    ∃ word, g.Derives [A] word ∧ ∀ id ∈ word, g.isTerminal id = true

/-- No non-terminal is useless: each is in some form of the start symbol and derives some word. -/
structure Reduced (g : Grammar) (S : SymbolId) : Prop where
  reached : ∀ A ∈ g.symbols.nonterminals, ∃ before after, g.Derives [S] (before ++ A :: after)
  productive : g.Productive

/-- Registered symbols derive registered symbols. -/
theorem Derives.lt_size
    (hg : g.WellFormed)
    {α β : List SymbolId}
    (h : g.Derives α β)
    (hα : ∀ id ∈ α, id < g.symbols.size) :
    ∀ id ∈ β, id < g.symbols.size := by
  induction h with
  | refl =>
      exact hα
  | tail _ hstep ih =>
      obtain ⟨hp, before, after⟩ := hstep
      intro id hid
      simp only [List.mem_append] at hid
      rcases hid with (hid | hid) | hid
      · exact ih id (List.mem_append_left _ hid)
      · exact hg.rhs_lt _ hp id (List.mem_filter.1 hid).1
      · exact ih id (List.mem_append_right _ (List.mem_cons_of_mem _ hid))

/-- Where every non-terminal derives some word, every form does. -/
theorem Productive.exists_word
    (hproductive : g.Productive)
    {α : List SymbolId}
    (hα : ∀ id ∈ α, id < g.symbols.size) :
    ∃ word, g.Derives α word ∧ ∀ id ∈ word, g.isTerminal id = true := by
  induction α with
  | nil =>
      exact ⟨[], Derives.refl [], by simp⟩
  | cons id α ih =>
      obtain ⟨later, hlater, hterminals⟩ :=
        ih fun other hother => hα other (List.mem_cons_of_mem _ hother)
      have hid : ∃ word, g.Derives [id] word ∧ ∀ x ∈ word, g.isTerminal x = true := by
        cases hterm : g.isTerminal id with
        | true =>
            exact ⟨[id], Derives.refl [id], by simpa using hterm⟩
        | false =>
            exact hproductive id
              (SymbolTable.mem_nonterminals.2 ⟨hα id List.mem_cons_self, hterm⟩)
      obtain ⟨word, hword, hfirst⟩ := hid
      refine ⟨word ++ later, ?_, fun x hx => ?_⟩
      · exact (hword.append_right α).trans (hlater.append_left word)
      · rcases List.mem_append.1 hx with hx | hx
        · exact hfirst x hx
        · exact hterminals x hx

end

end Grammar
end PredictiveParsing

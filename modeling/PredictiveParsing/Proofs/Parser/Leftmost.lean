import PredictiveParsing.Proofs.Cells
import PredictiveParsing.Proofs.Derivation
import PredictiveParsing.Proofs.Follow
import PredictiveParsing.Proofs.Parser.Step
import Mathlib.Tactic

/-!
# A run is a leftmost derivation

The tokens consumed so far and the stack, top first, make up a form that the start symbol derives by
leftmost steps, and the productions of the derivation are those that were expanded.  A non-terminal
that vanishes counts as one that is expanded by its empty production.

This asks of the table only that a cell holds a production of its non-terminal.  One step of the
parser turns the form of the stack into what it consumes and the form of the new stack
(`Reduction.leftmost`); the rest is an induction over the run.
-/

namespace PredictiveParsing

namespace Grammar

section

variable {g : Grammar}

theorem Leftmost.append_left
    {ixs : List Nat} {α β : List SymbolId}
    (h : g.Leftmost ixs α β)
    {before : List SymbolId}
    (hbefore : ∀ id ∈ before, g.isTerminal id = true) :
    g.Leftmost ixs (before ++ α) (before ++ β) := by
  induction h with
  | refl α =>
      exact Leftmost.refl _
  | step hstep _ ih =>
      refine Leftmost.step ?_ ih
      cases hstep with
      | @expand p middle hp hmiddle after =>
          have hterminals : ∀ id ∈ before ++ middle, g.isTerminal id = true := by
            intro id hid
            rcases List.mem_append.1 hid with hid | hid
            · exact hbefore id hid
            · exact hmiddle id hid
          simpa using LeftmostStep.expand hp hterminals after

/-- A production, by its index, in front of other symbols. -/
theorem Leftmost.of_production
    {ix : Nat} {p : Production}
    (hp : g.productions[ix]? = some p)
    (after : List SymbolId) :
    g.Leftmost [ix] (p.lhs :: after) (form p.rhs ++ after) := by
  have hstep : g.LeftmostStep ix ([] ++ p.lhs :: after) ([] ++ form p.rhs ++ after) :=
    LeftmostStep.expand hp (by simp) after
  exact Leftmost.step hstep (Leftmost.refl _)

theorem findIdx?_empty
    {nt : SymbolId}
    (h : g.hasEmptyProduction nt = true) :
    ∃ ix p, (g.productions.findIdx? fun p => p.lhs == nt && p.isEmpty) = some ix ∧
      g.productions[ix]? = some p ∧ p.lhs = nt ∧ p.rhs = [epsilon] := by
  obtain ⟨q, hq, hempty⟩ := List.any_eq_true.1 h
  cases hfound : g.productions.findIdx? fun p => p.lhs == nt && p.isEmpty with
  | none =>
      have hnone := List.findIdx?_eq_none_iff.1 hfound q hq
      rw [hempty] at hnone
      cases hnone
  | some ix =>
      obtain ⟨hlt, hix, _⟩ := List.findIdx?_eq_some_iff_getElem.1 hfound
      have hparts : g.productions[ix].lhs = nt ∧ g.productions[ix].rhs = [epsilon] := by
        simpa [Production.isEmpty] using hix
      exact ⟨ix, _, rfl, List.getElem?_eq_getElem hlt, hparts⟩

end

end Grammar

namespace Event

/-- The token that is consumed: a terminal, popped from the stack as it comes next. -/
def consumed? (g : Grammar) : Event → Option SymbolId
  | .popped top lookahead =>
      if top ≠ epsilon ∧ g.isTerminal top = true ∧ top = lookahead then some top else none
  | _ => none

/-- The production that is expanded; for a non-terminal that vanishes, its empty production. -/
def production? (g : Grammar) : Event → Option Nat
  | .expanded ix => some ix
  | .vanished nt => g.productions.findIdx? fun p => p.lhs == nt && p.isEmpty
  | _ => none

end Event

/-- All tokens that are consumed, in order. -/
def consumed (g : Grammar) (events : List Event) : List SymbolId :=
  events.filterMap (Event.consumed? g)

/-- All productions that are expanded, in order. -/
def expansions (g : Grammar) (events : List Event) : List Nat :=
  events.filterMap (Event.production? g)

@[simp] theorem consumed_nil
    (g : Grammar) :
    consumed g [] = [] := by
  rfl

@[simp] theorem consumed_cons
    (g : Grammar) (event : Event) (events : List Event) :
    consumed g (event :: events) = (event.consumed? g).toList ++ consumed g events := by
  unfold consumed
  rw [List.filterMap_cons]
  cases event.consumed? g <;> rfl

@[simp] theorem consumed_append
    (g : Grammar) (events others : List Event) :
    consumed g (events ++ others) = consumed g events ++ consumed g others := by
  simp [consumed]

@[simp] theorem expansions_nil
    (g : Grammar) :
    expansions g [] = [] := by
  rfl

@[simp] theorem expansions_cons
    (g : Grammar) (event : Event) (events : List Event) :
    expansions g (event :: events) = (event.production? g).toList ++ expansions g events := by
  unfold expansions
  rw [List.filterMap_cons]
  cases event.production? g <;> rfl

@[simp] theorem expansions_append
    (g : Grammar) (events others : List Event) :
    expansions g (events ++ others) = expansions g events ++ expansions g others := by
  simp [expansions]

theorem terminal_of_mem_consumed
    {g : Grammar} {events : List Event} {id : SymbolId}
    (h : id ∈ consumed g events) :
    g.isTerminal id = true := by
  obtain ⟨event, _, hid⟩ := List.mem_filterMap.1 h
  unfold Event.consumed? at hid
  split at hid
  · split at hid
    · rename_i hmatch
      cases hid
      exact hmatch.2.1
    · cases hid
  · cases hid

namespace Parser

section

variable {σ ε : Type} {src : Source σ ε} {g : Grammar} {t : Table} {p q : Parser σ}

/-- A step turns the form of the stack into what it consumes and the form of the stack after it. -/
theorem Reduction.leftmost
    (ht : t.Fits g)
    {a top : SymbolId} {rest : List SymbolId} {events : List Event}
    (hstack : p.stack = top :: rest)
    (h : Reduction g t a top rest p events q) :
    g.Leftmost (expansions g events) (form p.stack) (consumed g events ++ form q.stack) := by
  rw [hstack]
  cases h with
  | dropped htop =>
      subst htop
      simpa [Event.production?, Event.consumed?] using
        Grammar.Leftmost.refl (form rest)
  | matched htop hterm ha =>
      subst ha
      simpa [Event.production?, Event.consumed?, htop, hterm,
        form_cons htop, consume] using Grammar.Leftmost.refl (top :: form rest)
  | mismatched htop hterm ha =>
      simpa [Event.production?, Event.consumed?, ha, hstack] using
        Grammar.Leftmost.refl (form (top :: rest))
  | cycled htop hterm hopen =>
      simpa [Event.production?, Event.consumed?, hterm, hstack] using
        Grammar.Leftmost.refl (form (top :: rest))
  | stuck htop hterm hfresh hcell hempty =>
      simpa [Event.production?, Event.consumed?, hterm, hstack] using
        Grammar.Leftmost.refl (form (top :: rest))
  | @expanded htop hterm _ ix hcell =>
      obtain ⟨production, hix, hlhs⟩ := ht top a ix hcell
      subst hlhs
      have hstep := Grammar.Leftmost.of_production hix (form rest)
      simpa [Event.production?, Event.consumed?, hterm, hix,
        form_cons htop] using hstep
  | vanished htop hterm hfresh hcell hempty =>
      obtain ⟨ix, production, hfound, hix, hlhs, hrhs⟩ := Grammar.findIdx?_empty hempty
      subst hlhs
      have hstep := Grammar.Leftmost.of_production hix (form rest)
      simpa [Event.production?, Event.consumed?, hterm, hfound, hrhs,
        form_cons htop] using hstep

theorem Transition.leftmost
    (ht : t.Fits g)
    {r : Except ε (List Event)}
    (h : Transition src g t p r q) :
    g.Leftmost (expansions g (r.toOption.getD [])) (form p.stack)
      (consumed g (r.toOption.getD []) ++ form q.stack) := by
  cases h with
  | idle hrun =>
      exact Grammar.Leftmost.refl (form p.stack)
  | unread hrun hpeeking =>
      rw [← hpeeking.unchanged.2.1]
      exact Grammar.Leftmost.refl (form q.stack)
  | finished hrun hpeeking hstack hclosing =>
      rw [← hpeeking.unchanged.2.1, ← hclosing.stack]
      cases hclosing <;> exact Grammar.Leftmost.refl _
  | reduced hrun hpeeking hstack hreduction =>
      rw [← hpeeking.unchanged.2.1] at hstack ⊢
      exact hreduction.leftmost ht hstack

/-- Every run, whatever the source gives, is a leftmost derivation. -/
theorem Reaches.leftmost
    (ht : t.Fits g)
    {events : List Event}
    (h : Reaches src g t p events q) :
    g.Leftmost (expansions g events) (form p.stack) (consumed g events ++ form q.stack) := by
  induction h with
  | refl =>
      exact Grammar.Leftmost.refl (form p.stack)
  | @step events q _ ih =>
      have hstep := (step_spec src g t q).leftmost ht
      have hlong := ih.trans (hstep.append_left fun _ => terminal_of_mem_consumed)
      simpa using hlong

/-- A parser accepts on an empty stack only. -/
theorem Reaches.stack_of_accepted
    {events : List Event}
    (h : Reaches src g t p events q)
    (hp : p.status = .accepted → p.stack = [])
    (hq : q.status = .accepted) :
    q.stack = [] := by
  induction h with
  | refl =>
      exact hp hq
  | @step events q _ ih =>
      have hstep := step_spec src g t q
      generalize (q.step src g t).1 = r at hstep
      generalize (q.step src g t).2 = q' at hstep hq
      cases hstep with
      | idle hrun =>
          exact ih hq
      | unread hrun hpeeking =>
          rw [hpeeking.unchanged.1, hrun] at hq
          cases hq
      | finished hrun hpeeking hstack hclosing =>
          rw [hclosing.stack, hpeeking.unchanged.2.1, hstack]
      | reduced hrun hpeeking hstack hreduction =>
          have hstatus := hpeeking.unchanged.1.trans hrun
          cases hreduction <;> simp [hstatus, consume] at hq

theorem start_eq
    {S : SymbolId}
    (hstart : g.start = .ok S)
    (s : σ) (limit : Nat) :
    (Parser.start g s limit).status = .running ∧ (Parser.start g s limit).stack = [S] := by
  simp [Parser.start, hstart]

/-- At every state of every run, the start symbol derives what is consumed, followed by the stack, by
leftmost steps and the productions that were expanded.  The table may be any that fits: one that was
built fits, and it goes on to fit when rules are added to the grammar. -/
theorem run_is_leftmost
    (hsymbols : g.symbols.Reachable) :
    (∀ sets built, Table.ofSets g sets = .ok built → built.Fits g) ∧
    (∀ fitting antecedent consequent ix g', Table.Fits fitting g →
      g.addRule antecedent consequent = .ok (ix, g') → fitting.Fits g') ∧
    (∀ S fitting, g.start = .ok S → Table.Fits fitting g →
      ∀ {σ ε : Type} (src : Source σ ε) (s : σ) (limit : Nat) (events : List Event) (q : Parser σ),
        Reaches src g fitting (Parser.start g s limit) events q →
        g.Leftmost (expansions g events) [S] (consumed g events ++ form q.stack) ∧
        (q.status = .accepted → g.Leftmost (expansions g events) [S] (consumed g events))) := by
  refine ⟨fun _ _ h => Table.fits_of_ofSets h, fun _ _ _ _ _ hfits h => hfits.addRule h, ?_⟩
  intro S fitting hstart hfits σ ε src s limit events q h
  obtain ⟨hstatus, hstack⟩ := start_eq hstart s limit
  have hS : S ≠ epsilon := by
    rintro rfl
    have hterm := (Grammar.start_eq_ok hstart).2
    rw [Grammar.isTerminal, hsymbols.reserved.2] at hterm
    cases hterm
  have hrun := h.leftmost hfits
  rw [hstack, form_cons hS, form_nil] at hrun
  refine ⟨hrun, fun haccepted => ?_⟩
  have hempty : q.stack = [] := by
    refine h.stack_of_accepted (fun hp => ?_) haccepted
    rw [hstatus] at hp
    cases hp
  rwa [hempty, form_nil, List.append_nil] at hrun

/-- The run over `id PLUS id` derives it by the productions 0, 3, 1, 3 and 2. -/
theorem run_is_leftmost_sums :
    Grammar.sums.Leftmost [0, 3, 1, 3, 2] [4] [3, 2, 3] := by
  obtain ⟨_, _, hruns⟩ := run_is_leftmost Grammar.reachable_sums.symbols
  have hrun := hruns 4 Table.sums (by decide +kernel)
    (Table.fits_of_ofGrammar Table.ofGrammar_sums) (Source.ofList Unit) [.ok 3, .ok 2, .ok 3]
    defaultHistoryLimit _ _ (reaches_run _ _ _ 20 _)
  have haccepted := hrun.2 (by decide +kernel)
  have hexpanded :
      expansions Grammar.sums
        ((Parser.start Grammar.sums [.ok 3, .ok 2, .ok 3] defaultHistoryLimit).run
          (Source.ofList Unit) Grammar.sums Table.sums 20).events.reverse = [0, 3, 1, 3, 2] := by
    decide +kernel
  have hconsumed :
      consumed Grammar.sums
        ((Parser.start Grammar.sums [.ok 3, .ok 2, .ok 3] defaultHistoryLimit).run
          (Source.ofList Unit) Grammar.sums Table.sums 20).events.reverse = [3, 2, 3] := by
    decide +kernel
  rwa [hexpanded, hconsumed] at haccepted

end

end Parser
end PredictiveParsing

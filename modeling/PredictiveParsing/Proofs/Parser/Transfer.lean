import PredictiveParsing.Outcome
import PredictiveParsing.Proofs.Parser.Input
import Mathlib.Tactic

/-!
# Parsers over two sources

A parser knows its source by what it is given only.  Here the states of two sources are related, and
what the one source gives is given by the other one, too (`Source.Gives`).  Then every step over the
one that succeeds is made over the other in the same way (`Parser.Transition.transfer`).

If moreover the other source is at its end where the one fails (`Source.EndsFor`), a whole run over
the one has the outcome of the run over the other or ends with that failure, and the second is the case
only if the other source was asked at its end (`Parser.runFrom_transfer`).
-/

namespace PredictiveParsing

namespace Source

variable {σ τ ε δ : Type}

/-- What the source `src` gives in a state, `src'` gives in the related ones. -/
def Gives (src : Source σ ε) (src' : Source τ δ) (R : σ → τ → Prop) : Prop :=
  ∀ s s' x next, R s s' → src.pull s = (.ok x, next) →
    ∃ next', src'.pull s' = (.ok x, next') ∧ R next next'

/-- Where `src` fails, `src'` is at its end and comes to a state with the property `P`. -/
def EndsFor (src : Source σ ε) (src' : Source τ δ) (R : σ → τ → Prop) (P : ε → τ → Prop) : Prop :=
  ∀ s s' e next, R s s' → src.pull s = (.error e, next) →
    ∃ next', src'.pull s' = (.ok none, next') ∧ P e next'

end Source

namespace Parser

section

variable {σ τ ε δ : Type} {src : Source σ ε} {src' : Source τ δ} {g : Grammar} {t : Table}
  {p q : Parser σ} {R : σ → τ → Prop} {P : ε → τ → Prop} {s : τ}

/-! ### Steps that succeed -/

theorem Peeking.transfer
    (hgives : src.Gives src' R)
    {a : SymbolId}
    (h : Peeking src p (.ok a) q)
    (hs : R p.source s) :
    ∃ next, R q.source next ∧
      Peeking src' (p.withInput s p.exhausted) (.ok a) (q.withInput next q.exhausted) := by
  cases h with
  | known hlookahead =>
      exact ⟨s, hs, .known hlookahead⟩
  | again hlookahead hexhausted =>
      exact ⟨s, hs, .again (p := p.withInput s p.exhausted) hlookahead hexhausted⟩
  | pulled hlookahead hexhausted hpull =>
      obtain ⟨next, hpull', hnext⟩ := hgives _ _ _ _ hs hpull
      exact ⟨next, hnext,
        .pulled (p := p.withInput s p.exhausted) hlookahead hexhausted hpull'⟩
  | ended hlookahead hexhausted hpull =>
      obtain ⟨next, hpull', hnext⟩ := hgives _ _ _ _ hs hpull
      exact ⟨next, hnext, .ended (p := p.withInput s p.exhausted) hlookahead hexhausted hpull'⟩

theorem Closing.transfer
    (hgives : src.Gives src' R)
    {a : SymbolId} {events : List Event}
    (h : Closing src a p (.ok events) q)
    (hs : R p.source s) :
    ∃ next, R q.source next ∧
      Closing src' a (p.withInput s p.exhausted) (.ok events) (q.withInput next q.exhausted) := by
  cases h with
  | trailing ha =>
      exact ⟨s, hs, .trailing ha⟩
  | accepted ha hexhausted =>
      exact ⟨s, hs, .accepted (p := p.withInput s p.exhausted) ha hexhausted⟩
  | closed ha hexhausted hpull =>
      obtain ⟨next, hpull', hnext⟩ := hgives _ _ _ _ hs hpull
      exact ⟨next, hnext, .closed (p := p.withInput s p.exhausted) ha hexhausted hpull'⟩
  | extra ha hexhausted hpull =>
      obtain ⟨next, hpull', hnext⟩ := hgives _ _ _ _ hs hpull
      exact ⟨next, hnext, .extra (p := p.withInput s p.exhausted) ha hexhausted hpull'⟩

theorem Reduction.transfer
    {a top : SymbolId} {rest : List SymbolId} {events : List Event}
    (h : Reduction g t a top rest p events q)
    (hs : R p.source s) :
    R q.source s ∧
      Reduction g t a top rest (p.withInput s p.exhausted) events
        (q.withInput s q.exhausted) := by
  obtain ⟨hexhausted, hsource, _⟩ := h.input
  rw [hexhausted, hsource]
  exact ⟨hs, h.withInput s p.exhausted⟩

/-- A step that succeeds is made in the same way over a source that gives the same. -/
theorem Transition.transfer
    (hgives : src.Gives src' R)
    {events : List Event}
    (h : Transition src g t p (.ok events) q)
    (hs : R p.source s) :
    ∃ next, R q.source next ∧
      Transition src' g t (p.withInput s p.exhausted) (.ok events)
        (q.withInput next q.exhausted) := by
  cases h with
  | idle hrun =>
      exact ⟨s, hs, .idle hrun⟩
  | finished hrun hpeeking hstack hclosing =>
      obtain ⟨next, hnext, hpeeking'⟩ := hpeeking.transfer hgives hs
      obtain ⟨last, hlast, hclosing'⟩ := hclosing.transfer hgives hnext
      exact ⟨last, hlast,
        .finished (p := p.withInput s p.exhausted) hrun hpeeking' hstack hclosing'⟩
  | reduced hrun hpeeking hstack hreduction =>
      obtain ⟨next, hnext, hpeeking'⟩ := hpeeking.transfer hgives hs
      obtain ⟨hlast, hreduction'⟩ := hreduction.transfer hnext
      exact ⟨next, hlast,
        .reduced (p := p.withInput s p.exhausted) hrun hpeeking' hstack hreduction'⟩

/-! ### After the end of the source -/

/-- When the source has been at its end, it is not asked again. -/
theorem Transition.of_exhausted
    {r : Except ε (List Event)}
    (h : Transition src g t p r q)
    (hexhausted : p.exhausted = true) :
    (∃ events, r = .ok events) ∧ q.exhausted = true ∧ q.source = p.source := by
  have hpeeked : ∀ {r' : Except ε SymbolId} {p' : Parser σ}, Peeking src p r' p' →
      (∃ a, r' = .ok a) ∧ p'.exhausted = true ∧ p'.source = p.source := by
    intro r' p' hpeeking
    cases hpeeking with
    | known | again =>
        exact ⟨⟨_, rfl⟩, hexhausted, rfl⟩
    | pulled _ hfalse | ended _ hfalse | failed _ hfalse =>
        rw [hexhausted] at hfalse
        cases hfalse
  cases h with
  | idle =>
      exact ⟨⟨_, rfl⟩, hexhausted, rfl⟩
  | unread _ hpeeking =>
      obtain ⟨⟨a, ha⟩, _⟩ := hpeeked hpeeking
      cases ha
  | finished _ hpeeking _ hclosing =>
      obtain ⟨_, htrue, hsource⟩ := hpeeked hpeeking
      cases hclosing with
      | trailing | accepted =>
          exact ⟨⟨_, rfl⟩, htrue, hsource⟩
      | closed _ hfalse | extra _ hfalse | failed _ hfalse =>
          rw [htrue] at hfalse
          cases hfalse
  | reduced _ hpeeking _ hreduction =>
      obtain ⟨_, htrue, hsource⟩ := hpeeked hpeeking
      obtain ⟨hkept, hsame, _⟩ := hreduction.input
      exact ⟨⟨_, rfl⟩, hkept.trans htrue, hsame.trans hsource⟩

theorem source_runFrom_of_exhausted
    (hexhausted : p.exhausted = true)
    (limit : Nat) (events : List Event) :
    (runFrom src g t limit events p).parser.source = p.source := by
  induction limit generalizing p events with
  | zero =>
      rfl
  | succ limit ih =>
      have hspec := step_spec src g t p
      obtain ⟨_, hexhausted', hsource⟩ := hspec.of_exhausted hexhausted
      unfold runFrom
      split
      · rfl
      · split
        · rename_i e q hq
          rw [hq] at hsource
          exact hsource
        · rename_i new q hq
          rw [hq] at hsource hexhausted'
          exact (ih hexhausted' _).trans hsource

/-! ### Steps that fail -/

/-- A token that has been looked at is looked at once more in the same step. -/
theorem Peeking.step
    {a : SymbolId}
    (hrun : p.status = .running)
    (h : Peeking src p (.ok a) q) :
    p.step src g t = q.step src g t := by
  have hq : q.peek src = (.ok a, q) :=
    (Peeking.known h.lookahead).eq
  have hrun' : q.status = .running :=
    h.unchanged.1.trans hrun
  simp only [Parser.step, isRunning_iff.2 hrun, isRunning_iff.2 hrun', h.eq, hq, Bool.not_true,
    Bool.false_eq_true, if_false]

/-- A step that fails because the source does is one that succeeds where the source is at its
end. -/
theorem Transition.transfer_error
    (hgives : src.Gives src' R)
    (hends : src.EndsFor src' R P)
    {e : ε}
    (h : Transition src g t p (.error e) q)
    (hs : R p.source s) :
    ∃ events q', Transition src' g t (p.withInput s p.exhausted) (.ok events) q' ∧
      q'.exhausted = true ∧ P e q'.source := by
  generalize hp' : p.withInput s p.exhausted = p'
  have hspec := step_spec src' g t p'
  cases h with
  | unread hrun hpeeking =>
      cases hpeeking with
      | failed hlookahead hexhausted hpull =>
          obtain ⟨next, hpull', hnext⟩ := hends _ _ _ _ hs hpull
          have hpeeking' : Peeking src' p' (.ok endMarker)
              { p' with source := next, exhausted := true, lookahead := some endMarker } := by
            subst hp'
            exact .ended (p := p.withInput s p.exhausted) hlookahead hexhausted hpull'
          have hrun' : p'.status = .running := by
            rw [← hp']
            exact hrun
          have hstep := hpeeking'.step (g := g) (t := t) hrun'
          rw [hstep] at hspec
          have hspec' := step_spec src' g t
            { p' with source := next, exhausted := true, lookahead := some endMarker }
          obtain ⟨⟨events, hevents⟩, hexhausted', hsource⟩ := hspec'.of_exhausted rfl
          rw [hevents] at hspec
          exact ⟨events, _, hspec, hexhausted', hsource ▸ hnext⟩
  | @finished hrun _ m hpeeking hstack _ _ hclosing =>
      obtain ⟨middle, hmiddle, hpeeking'⟩ := hpeeking.transfer hgives hs
      cases hclosing with
      | failed ha hexhausted hpull =>
          obtain ⟨next, hpull', hnext⟩ := hends _ _ _ _ hmiddle hpull
          have hclosing' := Closing.closed (p := m.withInput middle m.exhausted) ha hexhausted hpull'
          have hfinished := Transition.finished (g := g) (t := t)
            (p := p.withInput s p.exhausted) hrun hpeeking' hstack hclosing'
          exact ⟨_, _, hp' ▸ hfinished, rfl, hnext⟩

/-! ### Runs -/

/-- A run over the one source fails where the other one is asked at its end, or the runs over both have
the same outcome. -/
theorem runFrom_transfer
    (hgives : src.Gives src' R)
    (hends : src.EndsFor src' R P)
    (hs : R p.source s)
    (limit : Nat) (events : List Event) :
    (∃ e, (runFrom src g t limit events p).ending = .failed e ∧
      P e (runFrom src' g t limit events (p.withInput s p.exhausted)).parser.source) ∨
    ∃ o : Option Outcome,
      (runFrom src g t limit events p).outcome? g = o.map .ok ∧
      (runFrom src' g t limit events (p.withInput s p.exhausted)).outcome? g = o.map .ok ∧
      ∃ last, R last
        (runFrom src' g t limit events (p.withInput s p.exhausted)).parser.source := by
  have hsame : (p.withInput s p.exhausted).isRunning = p.isRunning :=
    rfl
  induction limit generalizing p s events with
  | zero =>
      right
      cases hrun : p.isRunning with
      | true =>
          refine ⟨none, ?_, ?_, p.source, hs⟩ <;> simp [runFrom, Run.outcome?, hsame, hrun]
      | false =>
          refine ⟨some (p.outcome g), ?_, ?_, p.source, hs⟩ <;>
            simp [runFrom, Run.outcome?, hsame, hrun]
          rfl
  | succ limit ih =>
      cases hrun : p.isRunning with
      | false =>
          right
          refine ⟨some (p.outcome g), ?_, ?_, p.source, ?_⟩ <;>
            simp [runFrom, Run.outcome?, hsame, hrun]
          · rfl
          · exact hs
      | true =>
          have hspec := step_spec src g t p
          rcases hstep : p.step src g t with ⟨r, q⟩
          rw [hstep] at hspec
          cases r with
          | error e =>
              obtain ⟨new, q', htransition, hexhausted, hq'⟩ := hspec.transfer_error hgives hends hs
              left
              refine ⟨e, ?_, ?_⟩
              · simp [runFrom, hrun, hstep]
              · simp only [runFrom, hsame, hrun, htransition.eq, Bool.not_true, Bool.false_eq_true,
                  if_false]
                rw [source_runFrom_of_exhausted hexhausted]
                exact hq'
          | ok new =>
              obtain ⟨next, hnext, htransition⟩ := hspec.transfer hgives hs
              simp only [runFrom, hsame, hrun, hstep, htransition.eq, Bool.not_true,
                Bool.false_eq_true, if_false]
              exact ih hnext _ rfl

end

end Parser
end PredictiveParsing

import PredictiveParsing.Parser
import PredictiveParsing.Table
import Mathlib.Tactic

/-!
# The steps of a parser

What a step can do is said once, as inductive predicates with one constructor for each way through
the code: `Reduction` for a step that takes a symbol from the stack, `Closing` for a step on the empty
stack, and `Transition` for a step as a whole.  Proofs about runs go by cases on these and do not open
`Parser.step`.

A parser is reached from another by any number of steps, failed ones included; `Reaches` also keeps
the events on the way.
-/

namespace PredictiveParsing
namespace Parser

section

variable {σ ε : Type} {src : Source σ ε} {g : Grammar} {t : Table} {p q : Parser σ}

/-! ### Peeking -/

/-- The ways to look at the next token. -/
inductive Peeking (src : Source σ ε) (p : Parser σ) : Except ε SymbolId → Parser σ → Prop
  | known
      {a : SymbolId}
      (hlookahead : p.lookahead = some a) :
      Peeking src p (.ok a) p
  | again
      (hlookahead : p.lookahead = none)
      (hexhausted : p.exhausted = true) :
      Peeking src p (.ok endMarker) { p with lookahead := some endMarker }
  | pulled
      (hlookahead : p.lookahead = none)
      (hexhausted : p.exhausted = false)
      {a : SymbolId} {s : σ}
      (hpull : src.pull p.source = (.ok (some a), s)) :
      Peeking src p (.ok a) { p with source := s, lookahead := some a }
  | ended
      (hlookahead : p.lookahead = none)
      (hexhausted : p.exhausted = false)
      {s : σ}
      (hpull : src.pull p.source = (.ok none, s)) :
      Peeking src p (.ok endMarker)
        { p with source := s, exhausted := true, lookahead := some endMarker }
  | failed
      (hlookahead : p.lookahead = none)
      (hexhausted : p.exhausted = false)
      {s : σ} {e : ε}
      (hpull : src.pull p.source = (.error e, s)) :
      Peeking src p (.error e) { p with source := s }

theorem peek_spec
    (src : Source σ ε) (p : Parser σ) :
    Peeking src p (p.peek src).1 (p.peek src).2 := by
  unfold peek
  split
  · rename_i a hlookahead
    exact .known hlookahead
  · rename_i hlookahead
    split
    · rename_i hexhausted
      exact .again hlookahead hexhausted
    · rename_i hexhausted
      have hexhausted : p.exhausted = false := by
        simpa using hexhausted
      split
      · rename_i e s hpull
        exact .failed hlookahead hexhausted hpull
      · rename_i a s hpull
        exact .pulled hlookahead hexhausted hpull
      · rename_i s hpull
        exact .ended hlookahead hexhausted hpull

/-- There is only one way to look at the next token. -/
theorem Peeking.eq
    {r : Except ε SymbolId}
    (h : Peeking src p r q) :
    p.peek src = (r, q) := by
  unfold peek
  cases h with
  | known hlookahead =>
      simp only [hlookahead]
  | again hlookahead hexhausted =>
      simp only [hlookahead, hexhausted, if_true]
  | pulled hlookahead hexhausted hpull | ended hlookahead hexhausted hpull
    | failed hlookahead hexhausted hpull =>
      simp only [hlookahead, hexhausted, hpull, Bool.false_eq_true, if_false]

/-- Peeking leaves all alone but the input. -/
theorem Peeking.unchanged
    {r : Except ε SymbolId}
    (h : Peeking src p r q) :
    q.status = p.status ∧ q.stack = p.stack ∧ q.expanding = p.expanding := by
  cases h <;> exact ⟨rfl, rfl, rfl⟩

theorem Peeking.lookahead
    {a : SymbolId}
    (h : Peeking src p (.ok a) q) :
    q.lookahead = some a := by
  cases h with
  | known hlookahead =>
      exact hlookahead
  | again | pulled | ended =>
      rfl

/-! ### Taking a symbol from the stack -/

/-- Of the non-terminals that were entered, each with the height of the stack beneath it, those that
a stack of this height still has above itself. -/
def beneath (entered : List (SymbolId × Nat)) (height : Nat) : List (SymbolId × Nat) :=
  entered.filter fun e => e.2 ≤ height

theorem mem_beneath
    {entered : List (SymbolId × Nat)} {height : Nat} {e : SymbolId × Nat} :
    e ∈ beneath entered height ↔ e ∈ entered ∧ e.2 ≤ height := by
  simp [beneath]

/-- The non-terminals that are still being expanded above a stack of this height. -/
def openAt (p : Parser σ) (height : Nat) : List (SymbolId × Nat) :=
  beneath p.expanding height

theorem mem_openAt
    {height d : Nat} {id : SymbolId} :
    (id, d) ∈ p.openAt height ↔ (id, d) ∈ p.expanding ∧ d ≤ height :=
  mem_beneath

/-- Looking through the record finds a non-terminal that is being expanded. -/
theorem any_openAt_of_mem
    {height d : Nat} {id : SymbolId}
    (h : (id, d) ∈ p.openAt height) :
    ((p.expanding.filter fun e => e.2 ≤ height).any fun e => e.1 == id) = true :=
  List.any_eq_true.2 ⟨_, h, by simp⟩

theorem any_openAt_of_fresh
    {height : Nat} {id : SymbolId}
    (h : ∀ d, (id, d) ∉ p.openAt height) :
    ((p.expanding.filter fun e => e.2 ≤ height).any fun e => e.1 == id) = false := by
  refine List.any_eq_false.2 ?_
  rintro ⟨other, d⟩ hmem heq
  obtain rfl : other = id := by
    simpa using heq
  exact h d hmem

/-- The steps that take `top` from the stack, each with its events and the parser after it. -/
inductive Reduction (g : Grammar) (t : Table) (a top : SymbolId) (rest : List SymbolId)
    (p : Parser σ) : List Event → Parser σ → Prop
  | dropped
      (htop : top = epsilon) :
      Reduction g t a top rest p [.popped top a]
        { p with expanding := p.openAt rest.length, stack := rest }
  | matched
      (htop : top ≠ epsilon)
      (hterm : g.isTerminal top = true)
      (ha : top = a) :
      Reduction g t a top rest p [.popped top a]
        ({ p with expanding := p.openAt rest.length, stack := rest }.consume a)
  | mismatched
      (htop : top ≠ epsilon)
      (hterm : g.isTerminal top = true)
      (ha : top ≠ a) :
      Reduction g t a top rest p [.popped top a, .rejected (.mismatch top a)]
        { p with
          expanding := p.openAt rest.length
          status := .rejected (.mismatch top a) }
  | cycled
      (htop : top ≠ epsilon)
      (hterm : g.isTerminal top = false)
      {d : Nat}
      (hopen : (top, d) ∈ p.openAt rest.length) :
      Reduction g t a top rest p [.popped top a, .rejected (.cycle top)]
        { p with
          expanding := p.openAt rest.length
          status := .rejected (.cycle top) }
  | expanded
      (htop : top ≠ epsilon)
      (hterm : g.isTerminal top = false)
      (hfresh : ∀ d, (top, d) ∉ p.openAt rest.length)
      {ix : Nat}
      (hcell : t.get? top a = some ix) :
      Reduction g t a top rest p [.popped top a, .expanded ix]
        { p with
          expanding := (top, rest.length) :: p.openAt rest.length
          stack := (g.productions[ix]?.map Production.rhs).getD [] ++ rest }
  | vanished
      (htop : top ≠ epsilon)
      (hterm : g.isTerminal top = false)
      (hfresh : ∀ d, (top, d) ∉ p.openAt rest.length)
      (hcell : t.get? top a = none)
      (hempty : g.hasEmptyProduction top = true) :
      Reduction g t a top rest p [.popped top a, .vanished top]
        { p with
          expanding := (top, rest.length) :: p.openAt rest.length
          stack := rest }
  | stuck
      (htop : top ≠ epsilon)
      (hterm : g.isTerminal top = false)
      (hfresh : ∀ d, (top, d) ∉ p.openAt rest.length)
      (hcell : t.get? top a = none)
      (hempty : g.hasEmptyProduction top = false) :
      Reduction g t a top rest p [.popped top a, .rejected (.noProduction top a)]
        { p with
          expanding := (top, rest.length) :: p.openAt rest.length
          status := .rejected (.noProduction top a) }

theorem reduce_spec
    (g : Grammar) (t : Table) (a top : SymbolId) (rest : List SymbolId) (p : Parser σ) :
    ∃ events q, p.reduce (ε := ε) g t a top rest = (.ok events, q) ∧
      Reduction g t a top rest p events q := by
  unfold reduce
  by_cases htop : top = epsilon
  · simp only [htop, if_true]
    exact ⟨_, _, rfl, .dropped rfl⟩
  simp only [htop, if_false]
  cases hterm : g.isTerminal top with
  | true =>
      by_cases ha : top = a
      · simp only [ha, if_true]
        exact ⟨_, _, rfl, .matched (ha ▸ htop) (ha ▸ hterm) rfl⟩
      · simp only [ha, if_true, if_false]
        exact ⟨_, _, rfl, .mismatched htop hterm ha⟩
  | false =>
      simp only [Bool.false_eq_true, if_false]
      split
      · rename_i hopen
        obtain ⟨⟨id, d⟩, hmem, heq⟩ := List.any_eq_true.1 hopen
        have hid : id = top := by
          simpa using heq
        subst hid
        exact ⟨_, _, rfl, .cycled htop hterm hmem⟩
      · rename_i hfresh
        have hfresh : ∀ d, (top, d) ∉ p.openAt rest.length := by
          intro d hmem
          exact hfresh (List.any_eq_true.2 ⟨_, hmem, by simp⟩)
        split
        · rename_i ix hcell
          exact ⟨_, _, rfl, .expanded htop hterm hfresh hcell⟩
        · rename_i hcell
          split
          · rename_i hempty
            exact ⟨_, _, rfl, .vanished htop hterm hfresh hcell hempty⟩
          · rename_i hempty
            exact ⟨_, _, rfl, .stuck htop hterm hfresh hcell (by simpa using hempty)⟩

/-- There is only one way to take a symbol from the stack. -/
theorem Reduction.eq
    {a top : SymbolId} {rest : List SymbolId} {events : List Event}
    (h : Reduction g t a top rest p events q) :
    p.reduce (ε := ε) g t a top rest = (.ok events, q) := by
  unfold reduce
  cases h with
  | dropped htop =>
      simp only [htop, if_true]
      rfl
  | matched htop hterm ha =>
      simp only [← ha, htop, hterm, if_true, if_false]
      rfl
  | mismatched htop hterm ha =>
      simp only [htop, hterm, ha, if_true, if_false]
      rfl
  | cycled htop hterm hopen =>
      simp only [htop, hterm, any_openAt_of_mem hopen, Bool.false_eq_true, if_true, if_false]
      rfl
  | expanded htop hterm hfresh hcell =>
      simp only [htop, hterm, any_openAt_of_fresh hfresh, hcell, Bool.false_eq_true, if_false]
      rfl
  | vanished htop hterm hfresh hcell hempty | stuck htop hterm hfresh hcell hempty =>
      simp only [htop, hterm, any_openAt_of_fresh hfresh, hcell, hempty, Bool.false_eq_true,
        if_true, if_false]
      rfl

/-- The same parser over another input. -/
def withInput {τ : Type} (p : Parser σ) (source : τ) (exhausted : Bool) : Parser τ :=
  { p with source := source, exhausted := exhausted }

/-- What is taken from the stack, and how, does not depend on the input behind the token that comes
next. -/
theorem Reduction.withInput
    {τ : Type} {a top : SymbolId} {rest : List SymbolId} {events : List Event}
    (h : Reduction g t a top rest p events q)
    (source : τ) (exhausted : Bool) :
    Reduction g t a top rest (p.withInput source exhausted) events
      (q.withInput source exhausted) := by
  cases h with
  | dropped htop =>
      exact .dropped htop
  | matched htop hterm ha =>
      exact .matched htop hterm ha
  | mismatched htop hterm ha =>
      exact .mismatched htop hterm ha
  | cycled htop hterm hopen =>
      exact .cycled htop hterm hopen
  | expanded htop hterm hfresh hcell =>
      exact .expanded (p := p.withInput source exhausted) htop hterm hfresh hcell
  | vanished htop hterm hfresh hcell hempty =>
      exact .vanished htop hterm hfresh hcell hempty
  | stuck htop hterm hfresh hcell hempty =>
      exact .stuck htop hterm hfresh hcell hempty

/-! ### The empty stack -/

/-- The steps on an empty stack. -/
inductive Closing (src : Source σ ε) (a : SymbolId) (p : Parser σ) :
    Except ε (List Event) → Parser σ → Prop
  | trailing
      (ha : a ≠ endMarker) :
      Closing src a p (.ok [.rejected (.trailingInput a)])
        { p with status := .rejected (.trailingInput a) }
  | accepted
      (ha : a = endMarker)
      (hexhausted : p.exhausted = true) :
      Closing src a p (.ok [.accepted]) { p with status := .accepted }
  | closed
      (ha : a = endMarker)
      (hexhausted : p.exhausted = false)
      {s : σ}
      (hpull : src.pull p.source = (.ok none, s)) :
      Closing src a p (.ok [.accepted])
        { p with source := s, exhausted := true, status := .accepted }
  | extra
      (ha : a = endMarker)
      (hexhausted : p.exhausted = false)
      {s : σ} {token : SymbolId}
      (hpull : src.pull p.source = (.ok (some token), s)) :
      Closing src a p (.ok [.rejected (.trailingInput token)])
        { p with source := s, exhausted := true, status := .rejected (.trailingInput token) }
  | failed
      (ha : a = endMarker)
      (hexhausted : p.exhausted = false)
      {s : σ} {e : ε}
      (hpull : src.pull p.source = (.error e, s)) :
      Closing src a p (.error e) { p with source := s, exhausted := true }

theorem finish_spec
    (src : Source σ ε) (a : SymbolId) (p : Parser σ) :
    Closing src a p (p.finish src a).1 (p.finish src a).2 := by
  unfold finish
  by_cases ha : a = endMarker
  · simp only [ha, ne_eq, not_true_eq_false, if_false]
    cases hexhausted : p.exhausted with
    | true =>
        exact .accepted rfl hexhausted
    | false =>
        simp only [Bool.false_eq_true, if_false]
        split
        · rename_i e s hpull
          exact .failed rfl hexhausted hpull
        · rename_i token s hpull
          exact .extra rfl hexhausted hpull
        · rename_i s hpull
          exact .closed rfl hexhausted hpull
  · simp only [ne_eq, ha, not_false_eq_true, if_true]
    exact .trailing ha

/-- There is only one step on the empty stack. -/
theorem Closing.eq
    {a : SymbolId} {r : Except ε (List Event)}
    (h : Closing src a p r q) :
    p.finish src a = (r, q) := by
  unfold finish
  cases h with
  | trailing ha =>
      simp only [ne_eq, ha, not_false_eq_true, if_true]
      rfl
  | accepted ha hexhausted =>
      simp only [ne_eq, ha, not_true_eq_false, hexhausted, if_true, if_false, accept]
  | closed ha hexhausted hpull | extra ha hexhausted hpull | failed ha hexhausted hpull =>
      simp only [ne_eq, ha, not_true_eq_false, hexhausted, hpull, Bool.false_eq_true, if_false,
        accept, reject, List.nil_append]

theorem Closing.stack
    {a : SymbolId} {r : Except ε (List Event)}
    (h : Closing src a p r q) :
    q.stack = p.stack := by
  cases h <;> rfl

/-! ### Steps -/

/-- A step, with its result and the parser after it. -/
inductive Transition (src : Source σ ε) (g : Grammar) (t : Table) (p : Parser σ) :
    Except ε (List Event) → Parser σ → Prop
  | idle
      (hrun : p.status ≠ .running) :
      Transition src g t p (.ok []) p
  | unread
      (hrun : p.status = .running)
      {e : ε} {q : Parser σ}
      (hpeeking : Peeking src p (.error e) q) :
      Transition src g t p (.error e) q
  | finished
      (hrun : p.status = .running)
      {a : SymbolId} {q : Parser σ}
      (hpeeking : Peeking src p (.ok a) q)
      (hstack : p.stack = [])
      {r : Except ε (List Event)} {q' : Parser σ}
      (hclosing : Closing src a q r q') :
      Transition src g t p r q'
  | reduced
      (hrun : p.status = .running)
      {a : SymbolId} {q : Parser σ}
      (hpeeking : Peeking src p (.ok a) q)
      {top : SymbolId} {rest : List SymbolId}
      (hstack : p.stack = top :: rest)
      {events : List Event} {q' : Parser σ}
      (hreduction : Reduction g t a top rest q events q') :
      Transition src g t p (.ok events) q'

theorem isRunning_iff :
    p.isRunning = true ↔ p.status = .running := by
  simp [isRunning]

theorem step_spec
    (src : Source σ ε) (g : Grammar) (t : Table) (p : Parser σ) :
    Transition src g t p (p.step src g t).1 (p.step src g t).2 := by
  unfold step
  cases hrun : p.isRunning with
  | false =>
      refine .idle fun hstatus => ?_
      rw [isRunning_iff.2 hstatus] at hrun
      cases hrun
  | true =>
      have hstatus := isRunning_iff.1 hrun
      have hpeeking := peek_spec src p
      simp only [Bool.not_true, Bool.false_eq_true, if_false]
      split
      · rename_i e q hpeek
        rw [hpeek] at hpeeking
        exact .unread hstatus hpeeking
      · rename_i a q hpeek
        rw [hpeek] at hpeeking
        have hq := hpeeking.unchanged.2.1
        split
        · rename_i hstack
          exact .finished hstatus hpeeking (hq ▸ hstack) (finish_spec src a q)
        · rename_i top rest hstack
          obtain ⟨events, q', hreduce, hreduction⟩ :=
            reduce_spec (ε := ε) g t a top rest q
          rw [hreduce]
          exact .reduced hstatus hpeeking (hq ▸ hstack) hreduction

/-- There is only one step. -/
theorem Transition.eq
    {r : Except ε (List Event)}
    (h : Transition src g t p r q) :
    p.step src g t = (r, q) := by
  unfold step
  cases h with
  | idle hrun =>
      have hstopped : p.isRunning = false := by
        simpa [isRunning] using hrun
      simp only [hstopped, Bool.not_false, if_true]
  | unread hrun hpeeking =>
      simp only [isRunning_iff.2 hrun, hpeeking.eq, Bool.not_true, Bool.false_eq_true, if_false]
  | finished hrun hpeeking hstack hclosing =>
      rw [← hpeeking.unchanged.2.1] at hstack
      simp only [isRunning_iff.2 hrun, hpeeking.eq, hstack, hclosing.eq, Bool.not_true,
        Bool.false_eq_true, if_false]
  | reduced hrun hpeeking hstack hreduction =>
      rw [← hpeeking.unchanged.2.1] at hstack
      simp only [isRunning_iff.2 hrun, hpeeking.eq, hstack, hreduction.eq, Bool.not_true,
        Bool.false_eq_true, if_false]

/-- A parser that has stopped makes no step. -/
theorem step_of_not_running
    (hp : p.status ≠ .running) :
    p.step src g t = (.ok [], p) :=
  Transition.eq (.idle hp)

/-- The parsers that any number of steps lead to, and the events on the way. -/
inductive Reaches (src : Source σ ε) (g : Grammar) (t : Table) (p : Parser σ) :
    List Event → Parser σ → Prop
  | refl : Reaches src g t p [] p
  | step
      {events : List Event} {q : Parser σ}
      (h : Reaches src g t p events q) :
      Reaches src g t p (events ++ (q.step src g t).1.toOption.getD []) (q.step src g t).2

/-- The parser after a number of steps, failed ones included. -/
def after (src : Source σ ε) (g : Grammar) (t : Table) : Nat → Parser σ → Parser σ
  | 0, p => p
  | n + 1, p => after src g t n (p.step src g t).2

theorem after_succ
    (n : Nat) (p : Parser σ) :
    after src g t (n + 1) p = ((after src g t n p).step src g t).2 := by
  induction n generalizing p with
  | zero =>
      rfl
  | succ n ih =>
      exact ih (p.step src g t).2

theorem after_of_not_running
    (hp : p.status ≠ .running)
    (n : Nat) :
    after src g t n p = p := by
  induction n with
  | zero =>
      rfl
  | succ n ih =>
      rw [after, step_of_not_running hp, ih]

theorem Reaches.of_not_running
    (hp : p.status ≠ .running)
    {events : List Event}
    (h : Reaches src g t p events q) :
    events = [] ∧ q = p := by
  induction h with
  | refl =>
      exact ⟨rfl, rfl⟩
  | step _ ih =>
      obtain ⟨rfl, rfl⟩ := ih
      rw [step_of_not_running hp]
      exact ⟨rfl, rfl⟩

/-- Where a run ends is reached by its steps. -/
theorem Reaches.runFrom
    {events : List Event}
    (h : Reaches src g t p events q)
    (limit : Nat) :
    Reaches src g t p (runFrom src g t limit events.reverse q).events.reverse
      (runFrom src g t limit events.reverse q).parser := by
  induction limit generalizing events q with
  | zero =>
      simpa [Parser.runFrom] using h
  | succ limit ih =>
      have hstep := h.step
      unfold Parser.runFrom
      split
      · simpa using h
      · split
        · rename_i e q' hq
          rw [hq] at hstep
          simpa [Except.toOption] using hstep
        · rename_i new q' hq
          rw [hq] at hstep
          have hlater := ih hstep
          rw [List.reverse_append] at hlater
          exact hlater

theorem reaches_run
    (src : Source σ ε) (g : Grammar) (t : Table) (limit : Nat) (p : Parser σ) :
    Reaches src g t p (p.run src g t limit).events.reverse (p.run src g t limit).parser :=
  Reaches.refl.runFrom limit

/-- A run that ends takes no notice of more steps that it might take. -/
theorem runFrom_add
    {limit : Nat} {events : List Event}
    (h : (runFrom src g t limit events p).ending ≠ .unfinished)
    (more : Nat) :
    runFrom src g t (limit + more) events p = runFrom src g t limit events p := by
  induction limit generalizing events p with
  | zero =>
      cases hrun : p.isRunning with
      | true =>
          simp [runFrom, hrun] at h
      | false =>
          cases more <;> simp [runFrom, hrun]
  | succ limit ih =>
      rw [Nat.add_right_comm]
      cases hrun : p.isRunning with
      | false =>
          simp [runFrom, hrun]
      | true =>
          simp only [runFrom, hrun, Bool.not_true, Bool.false_eq_true, if_false] at h ⊢
          split
          · rfl
          · rename_i new q hstep
            rw [hstep] at h
            exact ih h

end

end Parser
end PredictiveParsing

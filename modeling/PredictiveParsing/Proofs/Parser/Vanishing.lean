import PredictiveParsing.Proofs.Parser.Guard
import PredictiveParsing.Proofs.Parser.Work
import Mathlib.Tactic

/-!
# A non-terminal that vanishes is a late rejection

A non-terminal without a production in its cell may still vanish, if it has an empty production.  With
a table that was built this is of no use.  The empty production would be in the cell if what is left
of the stack could show the token that comes next, and so it cannot (`Parser.lost_of_vanished`).  Then
no later step can change that: each of them leaves a stack that can show even less, consumes nothing,
and there are only so many of them before the parser rejects (`Parser.Lost.rejects`).

A parser that rejects an empty cell at once (`Parser.strictStep`) therefore consumes the same tokens
and accepts the same inputs (`Parser.vanishing_only_delays_rejection`).
-/

namespace PredictiveParsing

namespace Grammar

/-- A stack whose top may vanish shows what is shown beneath it. -/
theorem Exposes.of_hasEmptyProduction
    {g : Grammar} {a A : SymbolId} {rest : List SymbolId}
    (hempty : g.hasEmptyProduction A = true)
    (h : g.Exposes a rest) :
    ∃ (ix : Nat) (p : Production), g.productions[ix]? = some p ∧ p.lhs = A ∧
      g.Exposes a (p.rhs ++ rest) := by
  obtain ⟨ix, p, _, hix, hlhs, hrhs⟩ := findIdx?_empty hempty
  refine ⟨ix, p, hix, hlhs, ?_⟩
  rw [hrhs]
  exact h.drop

end Grammar

namespace Parser

section

variable {σ ε : Type} {src : Source σ ε} {g : Grammar} {t : Table} {p q : Parser σ}

/-! ### Lost parsers -/

/-- A parser that has rejected, or whose stack cannot show the token that comes next. -/
def Lost (g : Grammar) (p : Parser σ) : Prop :=
  (∃ r, p.status = .rejected r) ∨
    (p.status = .running ∧ ∃ a, p.lookahead = some a ∧ ¬ g.Exposes a p.stack)

theorem Lost.reduction
    (ht : t.Fits g)
    {a top : SymbolId} {rest : List SymbolId} {events : List Event}
    (hrun : p.status = .running)
    (hlookahead : p.lookahead = some a)
    (hhidden : ¬ g.Exposes a (top :: rest))
    (hreduction : Reduction g t a top rest p events q) :
    Lost g q ∧ consumed g events = [] := by
  cases hreduction with
  | dropped htop =>
      subst htop
      refine ⟨Or.inr ⟨hrun, a, hlookahead, fun h => hhidden h.drop⟩, ?_⟩
      simp [Event.consumed?]
  | matched htop hterm ha =>
      subst ha
      exact absurd (.top htop hterm rest) hhidden
  | mismatched _ _ ha =>
      exact ⟨Or.inl ⟨_, rfl⟩, by simp [Event.consumed?, ha]⟩
  | cycled _ hterm | stuck _ hterm =>
      exact ⟨Or.inl ⟨_, rfl⟩, by simp [Event.consumed?, hterm]⟩
  | expanded htop hterm _ hcell =>
      obtain ⟨production, hix, rfl⟩ := ht _ _ _ hcell
      refine ⟨Or.inr ⟨hrun, a, hlookahead, fun h => hhidden ?_⟩, by simp [Event.consumed?, hterm]⟩
      rw [hix] at h
      exact h.expand (List.mem_of_getElem? hix)
  | vanished htop hterm _ _ hempty =>
      refine ⟨Or.inr ⟨hrun, a, hlookahead, fun h => hhidden ?_⟩, by simp [Event.consumed?, hterm]⟩
      obtain ⟨_, _, hix, rfl, h⟩ := h.of_hasEmptyProduction hempty
      exact h.expand (List.mem_of_getElem? hix)

/-- A lost parser stays lost.  It knows the token that comes next, and so its source is not asked. -/
theorem Lost.transition
    (ht : t.Fits g)
    (h : Lost g p)
    {r : Except ε (List Event)}
    (htransition : Transition src g t p r q) :
    Lost g q ∧ ∃ events, r = .ok events ∧ consumed g events = [] := by
  rcases h with ⟨rejection, hrejected⟩ | ⟨hrun, a, hlookahead, hhidden⟩
  · have hstopped : p.status ≠ .running := by
      simp [hrejected]
    cases htransition with
    | idle =>
        exact ⟨Or.inl ⟨rejection, hrejected⟩, [], rfl, rfl⟩
    | unread hrun | finished hrun | reduced hrun =>
        exact absurd hrun hstopped
  · have hpeeked : ∀ {r p'}, Peeking src p r p' → r = .ok a ∧ p' = p := by
      intro r p' hpeeking
      cases hpeeking with
      | known hknown =>
          rw [hlookahead] at hknown
          cases hknown
          exact ⟨rfl, rfl⟩
      | again hnone | pulled hnone | ended hnone | failed hnone =>
          rw [hlookahead] at hnone
          cases hnone
    cases htransition with
    | idle hstopped =>
        exact absurd hrun hstopped
    | unread _ hpeeking =>
        cases (hpeeked hpeeking).1
    | finished _ hpeeking hstack hclosing =>
        obtain ⟨heq, rfl⟩ := hpeeked hpeeking
        cases heq
        -- the empty stack shows the end marker
        have ha : a ≠ endMarker := by
          intro ha
          rw [hstack] at hhidden
          exact hhidden (.bottom ha)
        cases hclosing with
        | trailing =>
            exact ⟨Or.inl ⟨_, rfl⟩, _, rfl, rfl⟩
        | accepted hmarker | closed hmarker | extra hmarker | failed hmarker =>
            exact absurd hmarker ha
    | reduced _ hpeeking hstack hreduction =>
        obtain ⟨heq, rfl⟩ := hpeeked hpeeking
        cases heq
        rw [hstack] at hhidden
        obtain ⟨hq, hnone⟩ := Lost.reduction ht hrun hlookahead hhidden hreduction
        exact ⟨hq, _, rfl, hnone⟩

theorem Lost.reaches
    (ht : t.Fits g)
    (hp : Lost g p)
    {events : List Event}
    (h : Reaches src g t p events q) :
    Lost g q ∧ consumed g events = [] := by
  induction h with
  | refl =>
      exact ⟨hp, rfl⟩
  | @step events q _ ih =>
      obtain ⟨hq, hnone⟩ := ih
      obtain ⟨hnext, new, hnew, hnothing⟩ := hq.transition ht (step_spec src g t q)
      refine ⟨hnext, ?_⟩
      rw [consumed_append, hnone, hnew]
      exact hnothing

theorem Lost.after
    (ht : t.Fits g)
    (hp : Lost g p)
    (n : Nat) :
    Lost g (after src g t n p) := by
  induction n with
  | zero =>
      exact hp
  | succ n ih =>
      rw [after_succ]
      exact (ih.transition ht (step_spec src g t _)).1

/-- A lost parser rejects in the end, since its work is bounded. -/
theorem Lost.rejects
    (hg : g.WellFormed)
    (ht : t.Fits g)
    (hp : Lost g p)
    (hrecorded : Recorded g p.stack p.expanding) :
    ∃ n r, (Parser.after src g t n p).status = .rejected r := by
  by_cases hrun : p.status = .running
  · obtain ⟨n, _, hdecisive⟩ :
        ∃ n ≤ work g p, Decisive src g t (Parser.after src g t n p) :=
      hrecorded.exists_decisive hg.rhs_lt hrun
    obtain ⟨hnext, events, hok, hnone⟩ :=
      (hp.after ht n).transition ht (step_spec src g t _)
    have hstopped : (Parser.after src g t (n + 1) p).status ≠ .running := by
      rw [after_succ]
      rcases hdecisive with ⟨e, herror⟩ | ⟨others, hothers, hconsumed⟩ | hstopped
      · rw [hok] at herror
        cases herror
      · rw [hok] at hothers
        cases hothers
        exact absurd hnone hconsumed
      · exact hstopped
    rw [← after_succ] at hnext
    rcases hnext with ⟨r, hr⟩ | ⟨hrun', _⟩
    · exact ⟨n + 1, r, hr⟩
    · exact absurd hrun' hstopped
  · rcases hp with ⟨r, hr⟩ | ⟨hrun', _⟩
    · exact ⟨0, r, hr⟩
    · exact absurd hrun' hrun

/-- With a table that was built, a parser is lost when it lets a non-terminal vanish: what is left of
the stack cannot show the token that comes next, or the empty production would be in the cell. -/
theorem lost_of_vanished
    (hg : g.WellFormed)
    (ht : Table.ofGrammar g = .ok t)
    {s : σ} {limit : Nat} {events new : List Event}
    (h : Reaches src g t (Parser.start g s limit) events p)
    (hstep : p.step src g t = (.ok new, q))
    {A : SymbolId}
    (hA : .vanished A ∈ new) :
    Lost g q := by
  obtain ⟨S, hstart⟩ := Table.exists_start hg ht
  have hspec := step_spec src g t p
  rw [hstep] at hspec
  cases hspec with
  | idle =>
      cases hA
  | finished _ _ _ hclosing =>
      cases hclosing <;> simp at hA
  | @reduced hrun a _ hpeeking top rest hstack _ _ hreduction =>
      cases hreduction with
      | dropped | matched | mismatched | cycled | expanded | stuck =>
          simp at hA
      | vanished _ _ _ hcell hempty =>
          have hstatus := hpeeking.unchanged.1.trans hrun
          refine Or.inr ⟨hstatus, a, hpeeking.lookahead, fun hexposes => ?_⟩
          have hform := (h.leftmost (Table.fits_of_ofGrammar ht)).derives
          rw [(start_eq hstart s limit).2, hg.form_singleton (Grammar.start_eq_ok hstart).2,
            hstack] at hform
          obtain ⟨ix, production, hix, rfl, hexposes⟩ := hexposes.of_hasEmptyProduction hempty
          rw [Table.get?_of_exposes hg ht hstart hix hform hexposes] at hcell
          cases hcell

/-! ### The parser that rejects at once -/

/-- The step that takes `top` from the stack, for a parser that rejects every empty cell. -/
def strictReduce (g : Grammar) (t : Table) (lookahead top : SymbolId) (rest : List SymbolId)
    (p : Parser σ) : Stepped σ ε :=
  let depth := rest.length
  let expanding := p.expanding.filter fun e => e.2 ≤ depth
  let popped := Event.popped top lookahead
  let kept := { p with expanding := expanding }
  if top = epsilon then (.ok [popped], { kept with stack := rest })
  else if g.isTerminal top then
    if top = lookahead then (.ok [popped], { kept with stack := rest }.consume lookahead)
    else kept.reject [popped] (.mismatch top lookahead)
  else if expanding.any (fun e => e.1 == top) then kept.reject [popped] (.cycle top)
  else
    let entered := { p with expanding := (top, depth) :: expanding }
    match t.get? top lookahead with
    | some ix =>
        let rhs := (g.productions[ix]?.map Production.rhs).getD []
        (.ok [popped, .expanded ix], { entered with stack := rhs ++ rest })
    | none => entered.reject [popped] (.noProduction top lookahead)

/-- One move of a parser that rejects every empty cell. -/
def strictStep (src : Source σ ε) (g : Grammar) (t : Table) (p : Parser σ) : Stepped σ ε :=
  if !p.isRunning then (.ok [], p)
  else
    match p.peek src with
    | (.error e, p) => (.error e, p)
    | (.ok lookahead, p) =>
        match p.stack with
        | [] => p.finish src lookahead
        | top :: rest => p.strictReduce g t lookahead top rest

/-- It makes a difference only where a non-terminal vanishes. -/
theorem Reduction.strict
    {a top : SymbolId} {rest : List SymbolId} {events : List Event}
    (h : Reduction g t a top rest p events q) :
    p.strictReduce (ε := ε) g t a top rest = (.ok events, q) ∨
      (events = [.popped top a, .vanished top] ∧ g.isTerminal top = false ∧
        ∃ q', p.strictReduce (ε := ε) g t a top rest =
            (.ok [.popped top a, .rejected (.noProduction top a)], q') ∧
          q'.status = .rejected (.noProduction top a)) := by
  have heq : p.reduce (ε := ε) g t a top rest = (.ok events, q) := h.eq
  unfold reduce at heq
  unfold strictReduce
  cases h with
  | dropped htop =>
      left
      simpa only [htop, if_true] using heq
  | matched htop hterm | mismatched htop hterm =>
      left
      simpa only [htop, hterm, if_true, if_false] using heq
  | cycled htop hterm hopen =>
      left
      simpa only [htop, hterm, any_openAt_of_mem hopen, Bool.false_eq_true, if_true, if_false]
        using heq
  | expanded htop hterm _ hcell =>
      left
      simpa only [htop, hterm, hcell, Bool.false_eq_true, if_false] using heq
  | stuck htop hterm _ hcell hempty =>
      left
      simpa only [htop, hterm, hcell, hempty, Bool.false_eq_true, if_false] using heq
  | vanished htop hterm hfresh hcell =>
      right
      simp only [htop, hterm, any_openAt_of_fresh hfresh, hcell, Bool.false_eq_true, if_false]
      exact ⟨trivial, trivial, _, rfl, rfl⟩

theorem strictStep_of_not_running
    (hp : p.status ≠ .running) :
    p.strictStep src g t = (.ok [], p) := by
  have hstopped : p.isRunning = false := by
    simpa [isRunning] using hp
  simp only [strictStep, hstopped, Bool.not_false, if_true]

/-- A step and the strict one are the same, or a non-terminal vanishes in the one and is rejected in
the other. -/
theorem Transition.strict
    {r : Except ε (List Event)}
    (h : Transition src g t p r q) :
    p.strictStep src g t = (r, q) ∨
      ((∃ A events, r = .ok events ∧ .vanished A ∈ events ∧ consumed g events = []) ∧
        ∃ events q' rejection, p.strictStep src g t = (.ok events, q') ∧
          consumed g events = [] ∧ q'.status = .rejected rejection) := by
  unfold strictStep
  cases h with
  | idle hrun =>
      exact Or.inl (strictStep_of_not_running hrun)
  | unread hrun hpeeking =>
      left
      simp only [isRunning_iff.2 hrun, hpeeking.eq, Bool.not_true, Bool.false_eq_true, if_false]
  | finished hrun hpeeking hstack hclosing =>
      left
      rw [← hpeeking.unchanged.2.1] at hstack
      simp only [isRunning_iff.2 hrun, hpeeking.eq, hstack, hclosing.eq, Bool.not_true,
        Bool.false_eq_true, if_false]
  | @reduced hrun a _ hpeeking top _ hstack _ _ hreduction =>
      rw [← hpeeking.unchanged.2.1] at hstack
      simp only [isRunning_iff.2 hrun, hpeeking.eq, hstack, Bool.not_true, Bool.false_eq_true,
        if_false]
      rcases hreduction.strict (ε := ε) with hsame | ⟨rfl, hterm, q', hstrict, hstatus⟩
      · exact Or.inl hsame
      · right
        have hnone : ∀ event, consumed g [.popped top a, event] = consumed g [event] := by
          intro event
          simp [Event.consumed?, hterm]
        exact ⟨⟨top, _, rfl, by simp, hnone _⟩, _, q', _, hstrict, hnone _, hstatus⟩

/-- The events of a number of moves, and the parser after them. -/
def moves (next : Parser σ → Stepped σ ε) : Nat → Parser σ → List Event × Parser σ
  | 0, p => ([], p)
  | n + 1, p =>
      let (events, q) := moves next n p
      (events ++ (next q).1.toOption.getD [], (next q).2)

theorem reaches_moves
    (src : Source σ ε) (g : Grammar) (t : Table) (n : Nat) (p : Parser σ) :
    Reaches src g t p (moves (step src g t) n p).1 (moves (step src g t) n p).2 := by
  induction n with
  | zero =>
      exact .refl
  | succ n ih =>
      exact ih.step

@[simp] theorem moves_step_snd
    (n : Nat) (p : Parser σ) :
    (moves (step src g t) n p).2 = after src g t n p := by
  induction n with
  | zero =>
      rfl
  | succ n ih =>
      rw [after_succ, ← ih]
      rfl

/-- As long as no non-terminal has vanished the strict parser makes the same moves; from then on it
has rejected, and the other one is lost. -/
theorem moves_strict
    (hg : g.WellFormed)
    (ht : Table.ofGrammar g = .ok t)
    (src : Source σ ε) (s : σ) (limit n : Nat) :
    moves (strictStep src g t) n (Parser.start g s limit) =
        moves (step src g t) n (Parser.start g s limit) ∨
      (consumed g (moves (strictStep src g t) n (Parser.start g s limit)).1 =
          consumed g (moves (step src g t) n (Parser.start g s limit)).1 ∧
        (∃ r, (moves (strictStep src g t) n (Parser.start g s limit)).2.status = .rejected r) ∧
        Lost g (moves (step src g t) n (Parser.start g s limit)).2) := by
  have hfits := Table.fits_of_ofGrammar ht
  induction n with
  | zero =>
      exact Or.inl rfl
  | succ n ih =>
      have hreaches := reaches_moves src g t n (Parser.start g s limit)
      simp only [moves]
      generalize moves (strictStep src g t) n (Parser.start g s limit) = strict at ih
      generalize moves (step src g t) n (Parser.start g s limit) = plain at ih hreaches
      obtain ⟨events, q⟩ := plain
      have hspec := step_spec src g t q
      rcases ih with rfl | ⟨hconsumed, ⟨r, hr⟩, hlost⟩
      · rcases hspec.strict with hsame | ⟨⟨A, new, hnew, hA, hnone⟩, others, q', rejection, hstrict⟩
        · left
          rw [hsame]
        · right
          obtain ⟨hstrict, hnothing, hstatus⟩ := hstrict
          have hlost := lost_of_vanished hg ht hreaches (Prod.ext hnew rfl) hA
          simp only [hstrict, hnew, consumed_append]
          exact ⟨by simp [Except.toOption, hnone, hnothing], ⟨rejection, hstatus⟩, hlost⟩
      · right
        have hstopped : strict.2.status ≠ .running := by
          simp [hr]
        obtain ⟨hnext, new, hnew, hnone⟩ := hlost.transition hfits hspec
        simp only [strictStep_of_not_running hstopped, hnew, consumed_append]
        exact ⟨by simpa [Except.toOption, hnone] using hconsumed, ⟨r, hr⟩, hnext⟩

/-- **Vanishing only delays a rejection.**  With a table that was built, a parser that lets a
non-terminal vanish for want of a cell consumes no token after that and rejects in the end.  So the
parser that rejects every empty cell at once has consumed the same tokens after each number of steps,
and it has accepted if and only if the other one has. -/
theorem vanishing_only_delays_rejection
    (hg : g.Reachable)
    (ht : Table.ofGrammar g = .ok t)
    (src : Source σ ε) (s : σ) (limit : Nat) :
    (∀ (events new : List Event) (p q : Parser σ) (A : SymbolId),
      Reaches src g t (Parser.start g s limit) events p →
      p.step src g t = (.ok new, q) → .vanished A ∈ new →
        (∀ later q', Reaches src g t q later q' → consumed g later = []) ∧
        ∃ n r, (after src g t n q).status = .rejected r) ∧
    (∀ n,
      consumed g (moves (strictStep src g t) n (Parser.start g s limit)).1 =
        consumed g (moves (step src g t) n (Parser.start g s limit)).1 ∧
      ((moves (strictStep src g t) n (Parser.start g s limit)).2.status = .accepted ↔
        (moves (step src g t) n (Parser.start g s limit)).2.status = .accepted)) := by
  have hwf := hg.wellFormed
  have hfits := Table.fits_of_ofGrammar ht
  constructor
  · intro events new p q A hreaches hstep hA
    have hlost := lost_of_vanished hwf ht hreaches hstep hA
    have hrecorded := hreaches.step.recorded hwf.rhs_lt (recorded_start g s limit)
    rw [hstep] at hrecorded
    exact ⟨fun later q' hlater => (hlost.reaches hfits hlater).2, hlost.rejects hwf hfits hrecorded⟩
  · intro n
    rcases moves_strict hwf ht src s limit n with hsame | ⟨hconsumed, ⟨r, hr⟩, hlost⟩
    · rw [hsame]
      exact ⟨rfl, Iff.rfl⟩
    · refine ⟨hconsumed, fun haccepted => ?_, fun haccepted => ?_⟩
      · rw [hr] at haccepted
        cases haccepted
      · rcases hlost with ⟨other, hother⟩ | ⟨hrun, _⟩
        · rw [hother] at haccepted
          cases haccepted
        · rw [hrun] at haccepted
          cases haccepted

end

/-- Over two identifiers the fourth step lets `X` vanish in front of the second one, and the parser
rejects.  The strict parser has consumed the first one, too, and no more. -/
theorem vanishing_only_delays_rejection_sums :
    (∃ n r, (after (Source.ofList Unit) Grammar.sums Table.sums n
      ((after (Source.ofList Unit) Grammar.sums Table.sums 3
        (Parser.start Grammar.sums [.ok 3, .ok 3] defaultHistoryLimit)).step
          (Source.ofList Unit) Grammar.sums Table.sums).2).status = .rejected r) ∧
    consumed Grammar.sums
      (moves (strictStep (Source.ofList Unit) Grammar.sums Table.sums) 20
        (Parser.start Grammar.sums [.ok 3, .ok 3] defaultHistoryLimit)).1 = [3] := by
  obtain ⟨hlost, hstrict⟩ := vanishing_only_delays_rejection Grammar.reachable_sums
    Table.ofGrammar_sums (Source.ofList Unit) [.ok 3, .ok 3] defaultHistoryLimit
  constructor
  · have hstep : ((after (Source.ofList Unit) Grammar.sums Table.sums 3
        (Parser.start Grammar.sums [.ok 3, .ok 3] defaultHistoryLimit)).step
          (Source.ofList Unit) Grammar.sums Table.sums).1 = .ok [.popped 5 3, .vanished 5] := by
      decide +kernel
    have hreaches := reaches_moves (Source.ofList Unit) Grammar.sums Table.sums 3
      (Parser.start Grammar.sums [.ok 3, .ok 3] defaultHistoryLimit)
    rw [moves_step_snd] at hreaches
    exact (hlost _ _ _ _ 5 hreaches (Prod.ext hstep rfl) (by simp)).2
  · rw [(hstrict 20).1]
    decide +kernel

end Parser
end PredictiveParsing

import PredictiveParsing.Proofs.Parser.LeftRecursion
import PredictiveParsing.Proofs.Parser.Transcript
import Mathlib.Tactic

/-!
# What an outcome says

A parser that rejects says why.  Each reason is a statement about the parser at that moment, about
what it has done and what the source has given to it (`Parser.Explains`).  The stack is as it was before
the step that rejects: its top is the symbol that the reason names.

Two invariants carry the proof.  `Parser.Accounted` relates the answers of the source to the tokens:
as long as the source may be asked, its tokens are those consumed and the one that comes next; that it
is at its end is the last that it says.  `Parser.Entered` reads the record of non-terminals: one with
less beneath it than the whole stack has been expanded since the last token.
-/

namespace PredictiveParsing

namespace Parser

/-! ### Reasons -/

/-- A production of this non-terminal has been expanded since the last token was consumed. -/
def ExpandedSince (g : Grammar) (events : List Event) (A : SymbolId) : Prop :=
  ∃ earlier a ix later,
    events = earlier ++ .popped A a :: .expanded ix :: later ∧ consumed g later = []

theorem ExpandedSince.append
    {g : Grammar} {events new : List Event} {A : SymbolId}
    (h : ExpandedSince g events A)
    (hnew : consumed g new = []) :
    ExpandedSince g (events ++ new) A := by
  obtain ⟨earlier, a, ix, later, rfl, hlater⟩ := h
  exact ⟨earlier, a, ix, later ++ new, by simp, by simp [hlater, hnew]⟩

section

variable {σ ε : Type} {src : Source σ ε} {g : Grammar} {t : Table} {events new : List Event}

/-- What a reason says of a parser, its events and the answers of its source. -/
def Explains (g : Grammar) (t : Table) (events : List Event) (answers : Transcript ε)
    (p : Parser σ) : Rejection SymbolId → Prop
  | .mismatch expected found =>
      p.stack.head? = some expected ∧ g.isTerminal expected = true ∧
        p.lookahead = some found ∧ expected ≠ found
  | .noProduction A a =>
      p.stack.head? = some A ∧ g.isTerminal A = false ∧ p.lookahead = some a ∧
        t.get? A a = none ∧ g.hasEmptyProduction A = false
  | .cycle A =>
      p.stack.head? = some A ∧ g.isTerminal A = false ∧ ExpandedSince g events A
  | .trailingInput a =>
      p.stack = [] ∧
        ((a ≠ endMarker ∧ answers.tokens = consumed g events ++ [a]) ∨
          answers.tokens = consumed g events ++ [endMarker, a])
  | .missingStart =>
      (∃ fault, g.start = .error fault) ∧ answers = []

/-! ### The answers of the source -/

/-- The answers, the tokens and what comes next fit together. -/
structure Accounted (g : Grammar) (events : List Event) (answers : Transcript ε)
    (p : Parser σ) : Prop where
  /-- while the source may be asked, each of its tokens is consumed but the one that comes next -/
  tokens_eq : p.exhausted = false → answers.tokens = consumed g events ++ p.lookahead.toList
  /-- when it is not asked again, only end markers come -/
  lookahead_eq : p.exhausted = true → ∀ a ∈ p.lookahead, a = endMarker
  not_ended : p.exhausted = false → .ok none ∉ answers
  /-- the end is the last that the source says -/
  ended_last : .ok none ∉ answers.dropLast

theorem accounted_start
    (g : Grammar) (s : σ) (limit : Nat) :
    Accounted g [] ([] : Transcript ε) (start g s limit) where
  tokens_eq _ := rfl
  lookahead_eq h := by
    cases h
  not_ended _ := List.not_mem_nil
  ended_last := List.not_mem_nil

variable {p q : Parser (σ × Transcript ε)}

/-- A source that is asked has not been at its end, and its answer comes last. -/
theorem Accounted.asked
    (hp : Accounted g events p.source.2 p)
    (hexhausted : p.exhausted = false)
    {x : Except ε (Option SymbolId)} {next : σ × Transcript ε}
    (hpull : src.transcribed.pull p.source = (x, next)) :
    next.2.tokens = consumed g events ++ p.lookahead.toList ++ Transcript.tokens [x] ∧
      (.ok none ∈ next.2 → x = .ok none) ∧ .ok none ∉ next.2.dropLast := by
  have hold := hp.not_ended hexhausted
  rw [Source.transcript_of_pull hpull, List.dropLast_concat]
  refine ⟨?_, fun hmem => ?_, hold⟩
  · rw [Transcript.tokens_append, hp.tokens_eq hexhausted]
  · simpa [hold, eq_comm] using hmem

theorem Accounted.peeking
    (hp : Accounted g events p.source.2 p)
    {r : Except ε SymbolId}
    (h : Peeking src.transcribed p r q) :
    Accounted g events q.source.2 q := by
  cases h with
  | known =>
      exact hp
  | again _ hexhausted =>
      exact
        { tokens_eq := fun hfalse => by simp [hexhausted] at hfalse
          lookahead_eq := by simp
          not_ended := hp.not_ended
          ended_last := hp.ended_last }
  | pulled hlookahead hexhausted hpull =>
      obtain ⟨htokens, hend, hlast⟩ := hp.asked hexhausted hpull
      exact
        { tokens_eq := fun _ => by simpa [hlookahead] using htokens
          lookahead_eq := fun htrue => by simp [hexhausted] at htrue
          not_ended := fun _ hmem => by cases hend hmem
          ended_last := hlast }
  | ended hlookahead hexhausted hpull =>
      exact
        { tokens_eq := by simp
          lookahead_eq := by simp
          not_ended := by simp
          ended_last := (hp.asked hexhausted hpull).2.2 }
  | failed hlookahead hexhausted hpull =>
      obtain ⟨htokens, hend, hlast⟩ := hp.asked hexhausted hpull
      exact
        { tokens_eq := fun _ => by simpa [hlookahead] using htokens
          lookahead_eq := hp.lookahead_eq
          not_ended := fun _ hmem => by cases hend hmem
          ended_last := hlast }

theorem Accounted.reduction
    (hp : Accounted g events p.source.2 p)
    {a top : SymbolId} {rest : List SymbolId}
    (hlookahead : p.lookahead = some a)
    (h : Reduction g t a top rest p new q) :
    Accounted g (events ++ new) q.source.2 q := by
  obtain ⟨hexhausted, hsource, hinput⟩ := h.input
  rw [hsource]
  have hmoved : consumed g new ++ q.lookahead.toList = p.lookahead.toList := by
    rcases hinput with ⟨hnone, hkept⟩ | ⟨hone, hgone⟩
    · rw [hnone, hkept, List.nil_append]
    · rw [hone, hgone, hlookahead]
      rfl
  exact
    { tokens_eq := fun hfalse => by
        rw [hp.tokens_eq (hexhausted ▸ hfalse), consumed_append, List.append_assoc, hmoved]
      lookahead_eq := fun htrue b hb => by
        refine hp.lookahead_eq (hexhausted ▸ htrue) b ?_
        rcases hinput with ⟨_, hkept⟩ | ⟨_, hgone⟩
        · rwa [hkept] at hb
        · simp [hgone] at hb
      not_ended := fun hfalse => hp.not_ended (hexhausted ▸ hfalse)
      ended_last := hp.ended_last }

theorem Accounted.closing
    (hp : Accounted g events p.source.2 p)
    {a : SymbolId} {r : Except ε (List Event)}
    (hlookahead : p.lookahead = some a)
    (h : Closing src.transcribed a p r q) :
    Accounted g (events ++ r.toOption.getD []) q.source.2 q := by
  have hsame : consumed g (events ++ r.toOption.getD []) = consumed g events := by
    rw [consumed_append, h.consumed_eq_nil, List.append_nil]
  have hmarker : a = endMarker → ∀ b ∈ p.lookahead, b = endMarker := by
    rintro rfl b hb
    simpa [hlookahead] using hb.symm
  cases h with
  | trailing | accepted =>
      exact
        { tokens_eq := fun hfalse => by rw [hsame, hp.tokens_eq hfalse]
          lookahead_eq := hp.lookahead_eq
          not_ended := hp.not_ended
          ended_last := hp.ended_last }
  | closed ha hexhausted hpull | extra ha hexhausted hpull | failed ha hexhausted hpull =>
      exact
        { tokens_eq := by simp
          lookahead_eq := fun _ => hmarker ha
          not_ended := by simp
          ended_last := (hp.asked hexhausted hpull).2.2 }

theorem Accounted.transition
    (hp : Accounted g events p.source.2 p)
    {r : Except ε (List Event)}
    (h : Transition src.transcribed g t p r q) :
    Accounted g (events ++ r.toOption.getD []) q.source.2 q := by
  cases h with
  | idle =>
      simpa [Except.toOption] using hp
  | unread _ hpeeking =>
      simpa [Except.toOption] using hp.peeking hpeeking
  | finished _ hpeeking _ hclosing =>
      exact (hp.peeking hpeeking).closing hpeeking.lookahead hclosing
  | reduced _ hpeeking _ hreduction =>
      exact (hp.peeking hpeeking).reduction hpeeking.lookahead hreduction

/-! ### The record of non-terminals -/

/-- A non-terminal in the record, if there is more on the stack than what was beneath it, has been
expanded since the last token.  One that vanishes leaves nothing more. -/
def Entered (g : Grammar) (events : List Event) (p : Parser σ) : Prop :=
  ∀ A d, (A, d) ∈ p.expanding → d < p.stack.length → ExpandedSince g events A

theorem Entered.peeking
    {p q : Parser σ}
    (hp : Entered g events p)
    {r : Except ε SymbolId}
    (h : Peeking src p r q) :
    Entered g events q := by
  obtain ⟨_, hstack, hexpanding⟩ := h.unchanged
  unfold Entered
  rw [hstack, hexpanding]
  exact hp

theorem entered_of_stack_eq_nil
    {p : Parser σ}
    (hstack : p.stack = []) :
    Entered g events p := by
  intro A d _ hlt
  simp [hstack] at hlt

theorem Entered.reduction
    {p q : Parser σ}
    (hp : Entered g events p)
    {a top : SymbolId} {rest : List SymbolId}
    (hstack : p.stack = top :: rest)
    (h : Reduction g t a top rest p new q)
    (hrun : q.status = .running) :
    Entered g (events ++ new) q := by
  have hopen : ∀ {A d}, (A, d) ∈ p.openAt rest.length → consumed g new = [] →
      ExpandedSince g (events ++ new) A := by
    intro A d hmem hnew
    obtain ⟨hmem, hle⟩ := mem_openAt.1 hmem
    have hlt : d < p.stack.length := by
      rw [hstack, List.length_cons]
      omega
    exact (hp A d hmem hlt).append hnew
  cases h with
  | dropped htop =>
      intro A d hmem _
      exact hopen hmem (by simp [Event.consumed?, htop])
  | matched =>
      intro A d hmem _
      cases hmem
  | mismatched | cycled | stuck =>
      cases hrun
  | expanded _ hterm =>
      intro A d hmem _
      rcases List.mem_cons.1 hmem with heq | hmem
      · cases heq
        exact ⟨events, a, _, [], rfl, rfl⟩
      · exact hopen hmem (by simp [Event.consumed?, hterm])
  | vanished _ hterm =>
      intro A d hmem hlt
      rcases List.mem_cons.1 hmem with heq | hmem
      · cases heq
        exact absurd hlt (lt_irrefl _)
      · exact hopen hmem (by simp [Event.consumed?, hterm])

/-! ### The reasons are true -/

/-- On the stack, the symbol that a reason names is on top, and the record shows an expansion. -/
theorem Reduction.explains
    {p q : Parser σ} {answers : Transcript ε}
    {a top : SymbolId} {rest : List SymbolId}
    (h : Reduction g t a top rest p new q)
    (hp : Entered g events p)
    (hrun : p.status = .running)
    (hlookahead : p.lookahead = some a)
    (hstack : p.stack = top :: rest)
    {b : Rejection SymbolId}
    (hq : q.status = .rejected b) :
    Explains g t (events ++ new) answers q b := by
  have htop : p.stack.head? = some top := by
    rw [hstack, List.head?_cons]
  cases h with
  | dropped | matched | expanded | vanished =>
      simp [consume, hrun] at hq
  | mismatched _ hterm ha =>
      cases hq
      exact ⟨htop, hterm, hlookahead, ha⟩
  | cycled _ hterm hopen =>
      cases hq
      obtain ⟨hmem, hle⟩ := mem_openAt.1 hopen
      have hsince := hp _ _ hmem (by simpa [hstack] using Nat.lt_succ_of_le hle)
      exact ⟨htop, hterm, hsince.append (by simp [Event.consumed?, hterm])⟩
  | stuck _ hterm _ hcell hempty =>
      cases hq
      exact ⟨htop, hterm, hlookahead, hcell, hempty⟩

/-- On the empty stack, a token is left: the one that comes next, or the one that the source gives
after its end marker. -/
theorem Closing.explains
    {a : SymbolId} {r : Except ε (List Event)}
    (h : Closing src.transcribed a p r q)
    (hp : Accounted g events p.source.2 p)
    (hrun : p.status = .running)
    (hlookahead : p.lookahead = some a)
    (hstack : p.stack = [])
    {b : Rejection SymbolId}
    (hq : q.status = .rejected b) :
    Explains g t (events ++ r.toOption.getD []) q.source.2 q b := by
  have hsame : consumed g (events ++ r.toOption.getD []) = consumed g events := by
    rw [consumed_append, h.consumed_eq_nil, List.append_nil]
  cases h with
  | trailing ha =>
      cases hq
      have hexhausted : p.exhausted = false := by
        by_contra htrue
        exact ha (hp.lookahead_eq (by simpa using htrue) a hlookahead)
      have htokens := hp.tokens_eq hexhausted
      rw [hlookahead, ← hsame] at htokens
      exact ⟨hstack, Or.inl ⟨ha, htokens⟩⟩
  | accepted | closed =>
      cases hq
  | extra ha hexhausted hpull =>
      cases hq
      obtain ⟨htokens, _⟩ := hp.asked hexhausted hpull
      rw [hlookahead, ← hsame, ha] at htokens
      exact ⟨hstack, Or.inr (by simpa using htokens)⟩
  | failed =>
      simp [hrun] at hq

/-- What every state of every run keeps: the account of the answers, the record while the parser is
running, and the reason when it has rejected. -/
structure Justified (g : Grammar) (t : Table) (events : List Event)
    (p : Parser (σ × Transcript ε)) : Prop where
  accounted : Accounted g events p.source.2 p
  entered : p.status = .running → Entered g events p
  explained : ∀ r, p.status = .rejected r → Explains g t events p.source.2 p r

theorem justified_start
    (g : Grammar) (t : Table) (s : σ) (limit : Nat) :
    Justified g t [] (start g (s, ([] : Transcript ε)) limit) where
  accounted := accounted_start g _ limit
  entered _ := by
    intro A d hmem
    cases hmem
  explained := by
    intro r hr
    cases hstart : g.start with
    | ok S =>
        simp [start, hstart] at hr
    | error fault =>
        obtain rfl : r = .missingStart := by
          simpa [start, hstart] using hr.symm
        exact ⟨⟨fault, hstart⟩, rfl⟩

theorem Justified.transition
    (hp : Justified g t events p)
    {r : Except ε (List Event)}
    (h : Transition src.transcribed g t p r q) :
    Justified g t (events ++ r.toOption.getD []) q := by
  have haccounted := hp.accounted.transition h
  cases h with
  | idle =>
      simpa [Except.toOption] using hp
  | unread hrun hpeeking =>
      refine ⟨haccounted, fun _ => ?_, fun b hq => ?_⟩
      · simpa [Except.toOption] using (hp.entered hrun).peeking hpeeking
      · rw [hpeeking.unchanged.1, hrun] at hq
        cases hq
  | finished hrun hpeeking hstack hclosing =>
      obtain ⟨hstatus, hsame, _⟩ := hpeeking.unchanged
      have hempty := hsame.trans hstack
      refine ⟨haccounted, fun _ => entered_of_stack_eq_nil (hclosing.stack.trans hempty), ?_⟩
      intro b hq
      exact hclosing.explains (hp.accounted.peeking hpeeking) (hstatus.trans hrun)
        hpeeking.lookahead hempty hq
  | reduced hrun hpeeking hstack hreduction =>
      obtain ⟨hstatus, hsame, _⟩ := hpeeking.unchanged
      have hentered := (hp.entered hrun).peeking hpeeking
      have hfull := hsame.trans hstack
      refine ⟨haccounted, hentered.reduction hfull hreduction, ?_⟩
      intro b hq
      exact hreduction.explains hentered (hstatus.trans hrun) hpeeking.lookahead hfull hq

theorem Reaches.justified
    (hp : Justified g t [] p)
    (h : Reaches src.transcribed g t p events q) :
    Justified g t events q := by
  induction h with
  | refl =>
      exact hp
  | @step _ q _ ih =>
      exact ih.transition (step_spec src.transcribed g t q)

/-- A parser lacks a start symbol from the first, or never. -/
theorem Reaches.missingStart_iff
    {s : σ} {limit : Nat}
    (h : Reaches src.transcribed g t (start g (s, []) limit) events q) :
    q.status = .rejected .missingStart ↔ ∃ fault, g.start = .error fault := by
  constructor
  · intro hq
    exact ((h.justified (justified_start g t s limit)).explained _ hq).1
  · rintro ⟨fault, hstart⟩
    have hstatus : (start g (s, ([] : Transcript ε)) limit).status = .rejected .missingStart := by
      simp [start, hstart]
    obtain ⟨_, rfl⟩ := h.of_not_running (by simp [hstatus])
    exact hstatus

/-- All that the outcome of a parser promises, given its events and the answers of its source. -/
structure Truthful (src : Source σ ε) (g : Grammar) (t : Table) (events : List Event)
    (answers : Transcript ε) (p : Parser σ) : Prop where
  rejection_iff : ∀ r, p.rejection? = some r ↔ p.status = .rejected r
  named_iff : ∀ r, (p.outcome g).rejection = some r ↔
    ∃ reason, p.status = .rejected reason ∧ reason.map g.name = r
  stack_of_accepted : p.status = .accepted → p.stack = []
  explained : ∀ r, p.status = .rejected r → Explains g t events answers p r
  missingStart_iff : p.status = .rejected .missingStart ↔ ∃ fault, g.start = .error fault
  accounted : Accounted g events answers p
  /-- a parser that has stopped makes no step and asks for nothing -/
  settled : p.status ≠ .running → ∀ n,
    after src.transcribed g t n (p.withTranscript answers) = p.withTranscript answers

theorem rejection?_eq_some_iff
    (p : Parser σ) (r : Rejection SymbolId) :
    p.rejection? = some r ↔ p.status = .rejected r := by
  unfold rejection?
  cases p.status <;> simp

/-- **The outcome is truthful.**  Take any state of any run, with the answers that the source has given
so far.  There is a rejection just if the parser has rejected; the stack of one that has accepted is
empty; each reason is as `Explains` says.  There is no start symbol just if the grammar has none, and
then nothing was asked.  A parser that has stopped stays as it is and asks for nothing, and none asks
again after the end. -/
theorem outcome_is_truthful
    (g : Grammar) (t : Table) (src : Source σ ε) (s : σ) (limit : Nat)
    {q : Parser σ}
    (h : Reaches src g t (start g s limit) events q) :
    (∃ answers, Reaches src.transcribed g t (start g (s, []) limit) events
      (q.withTranscript answers)) ∧
    ∀ answers, Reaches src.transcribed g t (start g (s, []) limit) events
      (q.withTranscript answers) → Truthful src g t events answers q := by
  refine ⟨reaches_iff_transcribed.1 h, fun answers hwritten => ?_⟩
  have hjustified := hwritten.justified (justified_start g t s limit)
  exact
    { rejection_iff := q.rejection?_eq_some_iff
      named_iff := fun r => by
        simp [outcome, rejection?_eq_some_iff]
      stack_of_accepted := h.stack_of_accepted fun hstart => by
        cases hs : g.start <;> simp [start, hs] at hstart
      explained := hjustified.explained
      missingStart_iff := hwritten.missingStart_iff
      accounted :=
        { tokens_eq := hjustified.accounted.tokens_eq
          lookahead_eq := hjustified.accounted.lookahead_eq
          not_ended := hjustified.accounted.not_ended
          ended_last := hjustified.accounted.ended_last }
      settled := fun hstopped =>
        after_of_not_running (p := q.withTranscript answers) hstopped }

/-- Over `b`, the run with `Table.circular` comes to reject because of `A`.  `A` is on top of the stack
then, and it has been expanded already. -/
theorem outcome_is_truthful_circular :
    ∃ events q,
      Reaches (Source.ofList Unit) Grammar.circular Table.circular
        (start Grammar.circular [.ok 2] defaultHistoryLimit) events q ∧
      q.status = .rejected (.cycle 4) ∧ q.stack.head? = some 4 ∧
      ExpandedSince Grammar.circular events 4 := by
  have hreaches := reaches_run (Source.ofList Unit) Grammar.circular Table.circular 20
    (start Grammar.circular [.ok 2] defaultHistoryLimit)
  have hcycle : ((start Grammar.circular [.ok 2] defaultHistoryLimit).run (Source.ofList Unit)
      Grammar.circular Table.circular 20).parser.status = .rejected (.cycle 4) := by
    decide +kernel
  obtain ⟨⟨answers, hwritten⟩, htruthful⟩ := outcome_is_truthful Grammar.circular Table.circular
    (Source.ofList Unit) [.ok 2] defaultHistoryLimit hreaches
  obtain ⟨htop, _, hsince⟩ := (htruthful answers hwritten).explained _ hcycle
  exact ⟨_, _, hreaches, hcycle, htop, hsince⟩

end

end Parser
end PredictiveParsing

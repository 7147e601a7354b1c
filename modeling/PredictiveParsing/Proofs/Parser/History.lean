import PredictiveParsing.Proofs.Parser.Transcript
import Mathlib.Tactic

/-!
# The history is only an observer

A parser keeps the last tokens that it has consumed, as many as it is told to.  Whatever that number
is, the history holds exactly these (`Parser.Reaches.remembers`): each match adds one token at the end
and drops what is too much at the front.

No step looks at the history.  A parser that keeps none (`Parser.withoutHistory`) makes the same step,
with the same events or the same error (`Parser.step_withoutHistory`).  So runs that differ in the
length of the history alone go together and ask the source for the same
(`Parser.history_only_observes`), and a whole parse has the same outcome up to the history
(`Grammar.lexAndParse_withoutHistory`).
-/

namespace PredictiveParsing
namespace Parser

section

variable {σ ε : Type} {src : Source σ ε} {g : Grammar} {t : Table} {p q : Parser σ}
  {tokens : List SymbolId}

/-! ### What the history holds -/

/-- The history is the end of these tokens. -/
def Remembers (p : Parser σ) (tokens : List SymbolId) : Prop :=
  p.history = tokens.rtake p.historyLimit

/-- One more token: it is enough to have kept the last ones. -/
theorem rtake_concat
    (tokens : List SymbolId) (a : SymbolId) (n : Nat) :
    (tokens ++ [a]).rtake n = (tokens.rtake n ++ [a]).rtake n := by
  cases n with
  | zero =>
      simp only [List.rtake_zero]
  | succ n =>
      have hkept : (tokens.rtake (n + 1)).rtake n = tokens.rtake n := by
        simp only [List.rtake, List.drop_drop, List.length_drop]
        congr 1
        omega
      rw [List.rtake_concat_succ, List.rtake_concat_succ, hkept]

theorem Peeking.history
    {r : Except ε SymbolId}
    (h : Peeking src p r q) :
    q.history = p.history ∧ q.historyLimit = p.historyLimit := by
  cases h <;> exact ⟨rfl, rfl⟩

theorem Closing.history
    {a : SymbolId} {r : Except ε (List Event)}
    (h : Closing src a p r q) :
    q.history = p.history ∧ q.historyLimit = p.historyLimit := by
  cases h <;> exact ⟨rfl, rfl⟩

theorem Reduction.historyLimit
    {a top : SymbolId} {rest : List SymbolId} {events : List Event}
    (h : Reduction g t a top rest p events q) :
    q.historyLimit = p.historyLimit := by
  cases h <;> rfl

theorem Transition.historyLimit
    {r : Except ε (List Event)}
    (h : Transition src g t p r q) :
    q.historyLimit = p.historyLimit := by
  cases h with
  | idle =>
      rfl
  | unread _ hpeeking =>
      exact hpeeking.history.2
  | finished _ hpeeking _ hclosing =>
      exact hclosing.history.2.trans hpeeking.history.2
  | reduced _ hpeeking _ hreduction =>
      exact hreduction.historyLimit.trans hpeeking.history.2

theorem Remembers.kept
    (hp : p.Remembers tokens)
    (h : q.history = p.history ∧ q.historyLimit = p.historyLimit) :
    q.Remembers tokens := by
  unfold Remembers
  rw [h.1, h.2]
  exact hp

/-- A token that is matched comes last, and the first one goes if there are too many. -/
theorem Remembers.reduction
    (hp : p.Remembers tokens)
    {a top : SymbolId} {rest : List SymbolId} {events : List Event}
    (h : Reduction g t a top rest p events q) :
    q.Remembers (tokens ++ consumed g events) := by
  have hnone : consumed g events = [] → p.Remembers (tokens ++ consumed g events) := by
    intro hconsumed
    rwa [hconsumed, List.append_nil]
  cases h with
  | matched htop hterm ha =>
      subst ha
      have hconsumed : consumed g [.popped top top] = [top] := by
        simp [Event.consumed?, htop, hterm]
      unfold Remembers at hp ⊢
      rw [hconsumed]
      change (p.history ++ [top]).rtake p.historyLimit = (tokens ++ [top]).rtake p.historyLimit
      rw [hp, ← rtake_concat]
  | dropped htop =>
      exact hnone (by simp [Event.consumed?, htop])
  | mismatched _ _ ha =>
      exact hnone (by simp [Event.consumed?, ha])
  | cycled _ hterm | expanded _ hterm | vanished _ hterm | stuck _ hterm =>
      exact hnone (by simp [Event.consumed?, hterm])

theorem Remembers.transition
    (hp : p.Remembers tokens)
    {r : Except ε (List Event)}
    (h : Transition src g t p r q) :
    q.Remembers (tokens ++ consumed g (r.toOption.getD [])) := by
  cases h with
  | idle =>
      simpa [Except.toOption] using hp
  | unread _ hpeeking =>
      simpa [Except.toOption] using hp.kept hpeeking.history
  | finished _ hpeeking _ hclosing =>
      rw [hclosing.consumed_eq_nil, List.append_nil]
      exact (hp.kept hpeeking.history).kept hclosing.history
  | reduced _ hpeeking _ hreduction =>
      exact (hp.kept hpeeking.history).reduction hreduction

/-- Throughout a run, the history is the end of the tokens that were consumed. -/
theorem Reaches.remembers
    {events : List Event}
    (h : Reaches src g t p events q)
    (hp : p.Remembers []) :
    q.Remembers (consumed g events) ∧ q.historyLimit = p.historyLimit := by
  induction h with
  | refl =>
      exact ⟨hp, rfl⟩
  | @step _ q _ ih =>
      have hstep := step_spec src g t q
      rw [consumed_append]
      exact ⟨ih.1.transition hstep, hstep.historyLimit.trans ih.2⟩

theorem remembers_start
    (g : Grammar) (s : σ) (limit : Nat) :
    (start g s limit).Remembers [] ∧ (start g s limit).historyLimit = limit :=
  ⟨(List.rtake_nil limit).symm, rfl⟩

/-! ### Parsers without a history -/

/-- The same parser, which keeps no history. -/
def withoutHistory (p : Parser σ) : Parser σ :=
  { p with history := [], historyLimit := 0 }

theorem withoutHistory_start
    (g : Grammar) (s : σ) (limit : Nat) :
    (start g s limit).withoutHistory = start g s 0 := by
  unfold start withoutHistory
  cases g.start <;> rfl

theorem Peeking.withoutHistory
    {r : Except ε SymbolId}
    (h : Peeking src p r q) :
    Peeking src p.withoutHistory r q.withoutHistory := by
  cases h with
  | known hlookahead =>
      exact .known hlookahead
  | again hlookahead hexhausted =>
      exact .again (p := p.withoutHistory) hlookahead hexhausted
  | pulled hlookahead hexhausted hpull =>
      exact .pulled (p := p.withoutHistory) hlookahead hexhausted hpull
  | ended hlookahead hexhausted hpull =>
      exact .ended (p := p.withoutHistory) hlookahead hexhausted hpull
  | failed hlookahead hexhausted hpull =>
      exact .failed (p := p.withoutHistory) hlookahead hexhausted hpull

theorem Closing.withoutHistory
    {a : SymbolId} {r : Except ε (List Event)}
    (h : Closing src a p r q) :
    Closing src a p.withoutHistory r q.withoutHistory := by
  cases h with
  | trailing ha =>
      exact .trailing ha
  | accepted ha hexhausted =>
      exact .accepted (p := p.withoutHistory) ha hexhausted
  | closed ha hexhausted hpull =>
      exact .closed (p := p.withoutHistory) ha hexhausted hpull
  | extra ha hexhausted hpull =>
      exact .extra (p := p.withoutHistory) ha hexhausted hpull
  | failed ha hexhausted hpull =>
      exact .failed (p := p.withoutHistory) ha hexhausted hpull

theorem Reduction.withoutHistory
    {a top : SymbolId} {rest : List SymbolId} {events : List Event}
    (h : Reduction g t a top rest p events q) :
    Reduction g t a top rest p.withoutHistory events q.withoutHistory := by
  cases h with
  | dropped htop =>
      exact .dropped htop
  | matched htop hterm ha =>
      exact .matched htop hterm ha
  | mismatched htop hterm ha =>
      exact .mismatched htop hterm ha
  | cycled htop hterm hopen =>
      exact .cycled htop hterm hopen
  | expanded htop hterm hfresh hcell =>
      exact .expanded (p := p.withoutHistory) htop hterm hfresh hcell
  | vanished htop hterm hfresh hcell hempty =>
      exact .vanished htop hterm hfresh hcell hempty
  | stuck htop hterm hfresh hcell hempty =>
      exact .stuck htop hterm hfresh hcell hempty

theorem Transition.withoutHistory
    {r : Except ε (List Event)}
    (h : Transition src g t p r q) :
    Transition src g t p.withoutHistory r q.withoutHistory := by
  cases h with
  | idle hrun =>
      exact .idle hrun
  | unread hrun hpeeking =>
      exact .unread (p := p.withoutHistory) hrun hpeeking.withoutHistory
  | finished hrun hpeeking hstack hclosing =>
      exact .finished (p := p.withoutHistory) hrun hpeeking.withoutHistory hstack
        hclosing.withoutHistory
  | reduced hrun hpeeking hstack hreduction =>
      exact .reduced (p := p.withoutHistory) hrun hpeeking.withoutHistory hstack
        hreduction.withoutHistory

/-- A step does not look at the history. -/
theorem step_withoutHistory
    (src : Source σ ε) (g : Grammar) (t : Table) (p : Parser σ) :
    p.withoutHistory.step src g t =
      ((p.step src g t).1, (p.step src g t).2.withoutHistory) :=
  (step_spec src g t p).withoutHistory.eq

theorem after_withoutHistory
    (src : Source σ ε) (g : Grammar) (t : Table) (n : Nat) (p : Parser σ) :
    after src g t n p.withoutHistory = (after src g t n p).withoutHistory := by
  induction n with
  | zero =>
      rfl
  | succ n ih =>
      rw [after_succ, after_succ, ih, step_withoutHistory]

/-- Two runs that differ in the length of the history are the same up to the history. -/
theorem after_start_withoutHistory
    (src : Source σ ε) (g : Grammar) (t : Table) (s : σ) (limit n : Nat) :
    (after src g t n (start g s limit)).withoutHistory = after src g t n (start g s 0) := by
  rw [← after_withoutHistory, withoutHistory_start]

theorem transcript_start
    (src : Source σ ε) (g : Grammar) (t : Table) (s : σ) (limit n : Nat) :
    transcript src g t (start g s limit) n = transcript src g t (start g s 0) n := by
  have h := after_start_withoutHistory src.transcribed g t (s, []) limit n
  unfold transcript
  rw [withTranscript_start, withTranscript_start, ← h]
  rfl

/-! ### Whole runs -/

theorem runFrom_withoutHistory
    (src : Source σ ε) (g : Grammar) (t : Table) (limit : Nat) (events : List Event)
    (p : Parser σ) :
    runFrom src g t limit events p.withoutHistory =
      { runFrom src g t limit events p with
        parser := (runFrom src g t limit events p).parser.withoutHistory } := by
  have hsame : p.withoutHistory.isRunning = p.isRunning :=
    rfl
  induction limit generalizing p events with
  | zero =>
      rfl
  | succ limit ih =>
      unfold runFrom
      rw [hsame, step_withoutHistory]
      cases p.isRunning with
      | false =>
          rfl
      | true =>
          rcases p.step src g t with ⟨e | new, q⟩
          · rfl
          · exact ih (new.reverse ++ events) q rfl

end

end Parser

/-- The same outcome, without the last tokens. -/
def Outcome.withoutHistory (o : Outcome) : Outcome :=
  { o with history := [] }

theorem Parser.Run.outcome?_withoutHistory
    {σ ε : Type} (g : Grammar) (r : Parser.Run σ ε) :
    { r with parser := r.parser.withoutHistory }.outcome? g =
      (r.outcome? g).map (Except.map Outcome.withoutHistory) := by
  unfold Parser.Run.outcome?
  cases r.ending <;> rfl

/-- A whole parse without a history has the same outcome, up to the history. -/
theorem Grammar.lexAndParse_withoutHistory
    (g : Grammar) (t : Table) (text : String) (historyLimit limit : Nat) :
    g.lexAndParse t text 0 limit =
      (g.lexAndParse t text historyLimit limit).map (Except.map Outcome.withoutHistory) := by
  unfold lexAndParse
  cases Lexer.ofSymbols g.symbols with
  | error e =>
      rfl
  | ok lexer =>
      have hrun := Parser.runFrom_withoutHistory (Source.ofLexer lexer) g t limit []
        (Parser.start g (Cursor.start text) historyLimit)
      rw [Parser.withoutHistory_start] at hrun
      dsimp only [parseText, Parser.run]
      rw [hrun, Parser.Run.outcome?_withoutHistory, Option.map_map, Option.map_map]
      congr 1
      funext outcome
      cases outcome <;> rfl

namespace Parser

section

variable {σ ε : Type}

/-- **The history is only an observer.**  In every state of every run, it is the end of the tokens
that were consumed, as many of them as the parser was told to keep, or all.  Two runs that are told
different numbers go together: after each number of steps they are the same but for the history, the
source has given the same answers to both, and their next steps have the same events or the same
error. -/
theorem history_only_observes
    (g : Grammar) (t : Table) (src : Source σ ε) (s : σ) :
    (∀ limit events p, Reaches src g t (start g s limit) events p →
      p.history = (consumed g events).rtake limit ∧
      p.history.length = min limit (consumed g events).length) ∧
    ∀ limit limit' n,
      (after src g t n (start g s limit)).withoutHistory =
        (after src g t n (start g s limit')).withoutHistory ∧
      transcript src g t (start g s limit) n = transcript src g t (start g s limit') n ∧
      ((after src g t n (start g s limit)).step src g t).1 =
        ((after src g t n (start g s limit')).step src g t).1 := by
  constructor
  · intro limit events p h
    obtain ⟨hstart, hlimit⟩ := remembers_start g s limit
    obtain ⟨hp, hsame⟩ := h.remembers hstart
    unfold Remembers at hp
    rw [hsame, hlimit] at hp
    refine ⟨hp, ?_⟩
    rw [hp, List.rtake, List.length_drop]
    omega
  · intro limit limit' n
    have hsame : (after src g t n (start g s limit)).withoutHistory =
        (after src g t n (start g s limit')).withoutHistory := by
      rw [after_start_withoutHistory, after_start_withoutHistory]
    have hstep := congrArg (fun p => (p.step src g t).1) hsame
    simp only [step_withoutHistory] at hstep
    exact ⟨hsame, by rw [transcript_start, transcript_start src g t s limit'], hstep⟩

/-- After five steps over `id PLUS id` with room for one token, only `PLUS` is left of the two that
were consumed.  With no room at all, the source has given the same two tokens. -/
theorem history_only_observes_sums :
    ((start Grammar.sums [.ok 3, .ok 2, .ok 3] 1).run (Source.ofList Unit) Grammar.sums Table.sums
      5).parser.history = [2] ∧
    transcript (Source.ofList Unit) Grammar.sums Table.sums
      (start Grammar.sums [.ok 3, .ok 2, .ok 3] 0) 5 = [.ok (some 3), .ok (some 2)] := by
  obtain ⟨hhistory, hlockstep⟩ := history_only_observes Grammar.sums Table.sums
    (Source.ofList Unit) [.ok 3, .ok 2, .ok 3]
  constructor
  · have hconsumed : consumed Grammar.sums
        ((start Grammar.sums [.ok 3, .ok 2, .ok 3] 1).run (Source.ofList Unit) Grammar.sums
          Table.sums 5).events.reverse = [3, 2] := by
      decide +kernel
    rw [(hhistory 1 _ _ (reaches_run _ _ _ 5 _)).1, hconsumed]
    rfl
  · rw [← (hlockstep 1 0 5).2.1]
    decide +kernel

end

end Parser
end PredictiveParsing

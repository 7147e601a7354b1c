import PredictiveParsing.Proofs.Parser.Transfer
import Mathlib.Tactic

/-!
# What a source is asked

The events of a run do not tell when the source was asked.  A source that writes down its answers
does (`Source.transcribed`): its state carries all of them, so that two runs with the same transcript
have asked the same, and a run with the transcript of an earlier state has asked nothing since.

Writing down makes no difference to the parser: every step over the source is one over the source that
writes, with a few more answers in the transcript (`Parser.step_withTranscript`), and the runs over
both are the same (`Parser.reaches_iff_transcribed`).
-/

namespace PredictiveParsing

/-- The answers of a source in their order: tokens, the end, and errors. -/
abbrev Transcript (ε : Type) := List (Except ε (Option SymbolId))

namespace Transcript

variable {ε : Type}

/-- The tokens among the answers. -/
def tokens (answers : Transcript ε) : List SymbolId :=
  answers.filterMap fun answer => answer.toOption.bind id

@[simp] theorem tokens_append
    (answers new : Transcript ε) :
    tokens (answers ++ new) = answers.tokens ++ new.tokens :=
  List.filterMap_append

@[simp] theorem tokens_token
    (a : SymbolId) :
    tokens ([.ok (some a)] : Transcript ε) = [a] := by
  rfl

@[simp] theorem tokens_error
    (e : ε) :
    tokens ([.error e] : Transcript ε) = [] := by
  rfl

end Transcript

namespace Source

variable {σ ε : Type}

/-- The source that writes down its answers. -/
def transcribed (src : Source σ ε) : Source (σ × Transcript ε) ε where
  pull s := ((src.pull s.1).1, ((src.pull s.1).2, s.2 ++ [(src.pull s.1).1]))

theorem pull_transcribed
    {src : Source σ ε} {s next : σ} {x : Except ε (Option SymbolId)}
    (h : src.pull s = (x, next))
    (answers : Transcript ε) :
    src.transcribed.pull (s, answers) = (x, (next, answers ++ [x])) := by
  simp only [transcribed, h]

/-- The last answer that is written down is the one that was given. -/
theorem transcript_of_pull
    {src : Source σ ε} {s next : σ × Transcript ε} {x : Except ε (Option SymbolId)}
    (h : src.transcribed.pull s = (x, next)) :
    next.2 = s.2 ++ [x] := by
  cases h
  rfl

end Source

namespace Parser

section

variable {σ ε : Type} {src : Source σ ε} {g : Grammar} {t : Table} {p q : Parser σ}

/-- The same parser, with these answers written down. -/
def withTranscript (p : Parser σ) (answers : Transcript ε) : Parser (σ × Transcript ε) :=
  p.withInput (p.source, answers) p.exhausted

/-! ### Steps -/

theorem Peeking.transcribe
    {r : Except ε SymbolId}
    (h : Peeking src p r q)
    (answers : Transcript ε) :
    ∃ new, Peeking src.transcribed (p.withTranscript answers) r
      (q.withTranscript (answers ++ new)) := by
  cases h with
  | known hlookahead =>
      exact ⟨[], by simpa using .known hlookahead⟩
  | again hlookahead hexhausted =>
      exact ⟨[], by simpa using .again (p := p.withTranscript answers) hlookahead hexhausted⟩
  | pulled hlookahead hexhausted hpull =>
      exact ⟨_, .pulled (p := p.withTranscript answers) hlookahead hexhausted
        (Source.pull_transcribed hpull answers)⟩
  | ended hlookahead hexhausted hpull =>
      exact ⟨_, .ended (p := p.withTranscript answers) hlookahead hexhausted
        (Source.pull_transcribed hpull answers)⟩
  | failed hlookahead hexhausted hpull =>
      exact ⟨_, .failed (p := p.withTranscript answers) hlookahead hexhausted
        (Source.pull_transcribed hpull answers)⟩

theorem Closing.transcribe
    {a : SymbolId} {r : Except ε (List Event)}
    (h : Closing src a p r q)
    (answers : Transcript ε) :
    ∃ new, Closing src.transcribed a (p.withTranscript answers) r
      (q.withTranscript (answers ++ new)) := by
  cases h with
  | trailing ha =>
      exact ⟨[], by simpa using .trailing ha⟩
  | accepted ha hexhausted =>
      exact ⟨[], by simpa using .accepted (p := p.withTranscript answers) ha hexhausted⟩
  | closed ha hexhausted hpull =>
      exact ⟨_, .closed (p := p.withTranscript answers) ha hexhausted
        (Source.pull_transcribed hpull answers)⟩
  | extra ha hexhausted hpull =>
      exact ⟨_, .extra (p := p.withTranscript answers) ha hexhausted
        (Source.pull_transcribed hpull answers)⟩
  | failed ha hexhausted hpull =>
      exact ⟨_, .failed (p := p.withTranscript answers) ha hexhausted
        (Source.pull_transcribed hpull answers)⟩

theorem Reduction.transcribe
    {a top : SymbolId} {rest : List SymbolId} {events : List Event}
    (h : Reduction g t a top rest p events q)
    (answers : Transcript ε) :
    Reduction g t a top rest (p.withTranscript answers) events (q.withTranscript answers) := by
  obtain ⟨hexhausted, hsource, _⟩ := h.input
  unfold withTranscript
  rw [hexhausted, hsource]
  exact h.withInput (p.source, answers) p.exhausted

theorem Transition.transcribe
    {r : Except ε (List Event)}
    (h : Transition src g t p r q)
    (answers : Transcript ε) :
    ∃ new, Transition src.transcribed g t (p.withTranscript answers) r
      (q.withTranscript (answers ++ new)) := by
  cases h with
  | idle hrun =>
      exact ⟨[], by simpa using .idle hrun⟩
  | unread hrun hpeeking =>
      obtain ⟨new, hpeeking'⟩ := hpeeking.transcribe answers
      exact ⟨new, .unread (p := p.withTranscript answers) hrun hpeeking'⟩
  | finished hrun hpeeking hstack hclosing =>
      obtain ⟨new, hpeeking'⟩ := hpeeking.transcribe answers
      obtain ⟨last, hclosing'⟩ := hclosing.transcribe (answers ++ new)
      rw [List.append_assoc] at hclosing'
      exact ⟨new ++ last,
        .finished (p := p.withTranscript answers) hrun hpeeking' hstack hclosing'⟩
  | reduced hrun hpeeking hstack hreduction =>
      obtain ⟨new, hpeeking'⟩ := hpeeking.transcribe answers
      exact ⟨new, .reduced (p := p.withTranscript answers) hrun hpeeking' hstack
        (hreduction.transcribe (answers ++ new))⟩

/-- Writing down makes no difference to a step. -/
theorem step_withTranscript
    (src : Source σ ε) (g : Grammar) (t : Table) (p : Parser σ) (answers : Transcript ε) :
    ∃ new, (p.withTranscript answers).step src.transcribed g t =
      ((p.step src g t).1, (p.step src g t).2.withTranscript (answers ++ new)) := by
  obtain ⟨new, htransition⟩ := (step_spec src g t p).transcribe answers
  exact ⟨new, htransition.eq⟩

/-! ### Runs -/

theorem withTranscript_start
    (g : Grammar) (s : σ) (limit : Nat) :
    (start g s limit).withTranscript ([] : Transcript ε) = start g (s, []) limit := by
  unfold start withTranscript
  cases g.start <;> rfl

theorem Reaches.transcribe
    {events : List Event}
    (h : Reaches src g t p events q)
    (answers : Transcript ε) :
    ∃ later, Reaches src.transcribed g t (p.withTranscript answers) events
      (q.withTranscript later) := by
  induction h with
  | refl =>
      exact ⟨answers, .refl⟩
  | @step _ q _ ih =>
      obtain ⟨later, h⟩ := ih
      obtain ⟨new, hstep⟩ := step_withTranscript src g t q later
      have hnext := h.step
      rw [hstep] at hnext
      exact ⟨_, hnext⟩

theorem exists_reaches_of_transcribed
    {answers : Transcript ε} {events : List Event} {q' : Parser (σ × Transcript ε)}
    (h : Reaches src.transcribed g t (p.withTranscript answers) events q') :
    ∃ q later, q' = q.withTranscript later ∧ Reaches src g t p events q := by
  induction h with
  | refl =>
      exact ⟨p, answers, rfl, .refl⟩
  | step _ ih =>
      obtain ⟨q, later, rfl, hq⟩ := ih
      obtain ⟨new, hstep⟩ := step_withTranscript src g t q later
      rw [hstep]
      exact ⟨_, _, rfl, hq.step⟩

/-- The runs over a source are the runs over the one that writes down its answers. -/
theorem reaches_iff_transcribed
    {s : σ} {limit : Nat} {events : List Event} :
    Reaches src g t (start g s limit) events q ↔
      ∃ answers, Reaches src.transcribed g t (start g (s, []) limit) events
        (q.withTranscript answers) := by
  rw [← withTranscript_start]
  constructor
  · intro h
    exact h.transcribe []
  · rintro ⟨answers, h⟩
    obtain ⟨q', later, hsame, hq⟩ := exists_reaches_of_transcribed h
    obtain rfl : q = q' := by
      cases q
      cases q'
      cases hsame
      rfl
    exact hq

/-- All answers that the source gives in a number of steps. -/
def transcript (src : Source σ ε) (g : Grammar) (t : Table) (p : Parser σ) (n : Nat) :
    Transcript ε :=
  (after src.transcribed g t n (p.withTranscript [])).source.2

/-- After any number of steps, the parser that writes down is the same with its transcript. -/
theorem after_withTranscript
    (src : Source σ ε) (g : Grammar) (t : Table) (p : Parser σ) (n : Nat) :
    after src.transcribed g t n (p.withTranscript []) =
      (after src g t n p).withTranscript (transcript src g t p n) := by
  unfold transcript
  induction n with
  | zero =>
      rfl
  | succ n ih =>
      obtain ⟨new, hstep⟩ := step_withTranscript src g t (after src g t n p)
        (after src.transcribed g t n (p.withTranscript [])).source.2
      rw [← ih] at hstep
      rw [after_succ, after_succ, hstep]
      rfl

end

end Parser
end PredictiveParsing

import PredictiveParsing.Parser.Sources
import PredictiveParsing.Proofs.Lexing
import PredictiveParsing.Proofs.Parser.Leftmost
import Mathlib.Tactic

/-!
# The input of a parser

A source is an arbitrary step function; `Source.Supplies` says which tokens it gives from a state on,
until it ends or fails.  Lists of names and texts with a lexer always supply some finite sequence.

`Parser.Ahead` says which tokens a parser has before it, the one it has already looked at included.
Peeking does not change them, and consuming takes the first one away.  After the last one there are
end markers without end: the token that comes next is the head of the sequence, or the end marker.
-/

namespace PredictiveParsing

namespace Source

/-- From a state on, a source gives these tokens; then it ends, or fails with an error. -/
inductive Supplies {σ ε : Type} (src : Source σ ε) : σ → List SymbolId → Option ε → Prop
  | ended
      {s s' : σ}
      (hpull : src.pull s = (.ok none, s')) :
      Supplies src s [] none
  | failed
      {s s' : σ} {e : ε}
      (hpull : src.pull s = (.error e, s')) :
      Supplies src s [] (some e)
  | token
      {s s' : σ} {a : SymbolId} {ts : List SymbolId} {e : Option ε}
      (hpull : src.pull s = (.ok (some a), s'))
      (h : Supplies src s' ts e) :
      Supplies src s (a :: ts) e

theorem supplies_ofList
    {ε : Type}
    (ts : List SymbolId) :
    (ofList ε).Supplies (ts.map .ok) ts none := by
  induction ts with
  | nil =>
      exact .ended rfl
  | cons a ts ih =>
      exact .token rfl ih

/-- Names of terminals supply the terminals. -/
theorem supplies_ofNames
    {t : SymbolTable} {names : List String} {ts : List SymbolId}
    (h : names.map (tokenNamed t) = ts.map .ok) :
    (ofNames t).Supplies names ts none := by
  induction names generalizing ts with
  | nil =>
      obtain rfl := List.map_eq_nil_iff.1 h.symm
      exact .ended rfl
  | cons name names ih =>
      cases ts with
      | nil =>
          cases h
      | cons a ts =>
          obtain ⟨hname, hnames⟩ := List.cons_eq_cons.1 h
          have hpull : (ofNames t).pull (name :: names) = (.ok (some a), names) := by
            simp [ofNames, hname, Except.map]
          exact .token hpull (ih hnames)

theorem exists_supplies_ofNames
    (t : SymbolTable) (names : List String) :
    ∃ ts e, (ofNames t).Supplies names ts e := by
  induction names with
  | nil =>
      exact ⟨[], none, .ended rfl⟩
  | cons name names ih =>
      cases hname : tokenNamed t name with
      | error e =>
          have hpull : (ofNames t).pull (name :: names) = (.error e, names) := by
            simp [ofNames, hname, Except.map]
          exact ⟨[], some e, .failed hpull⟩
      | ok a =>
          obtain ⟨ts, e, hnames⟩ := ih
          refine ⟨a :: ts, e, .token ?_ hnames⟩
          simp [ofNames, hname, Except.map]

end Source

theorem Source.exists_supplies_ofLexer
    (lexer : Lexer) (cursor : Cursor) :
    ∃ ts e, (Source.ofLexer lexer).Supplies cursor ts e := by
  induction hlength : cursor.rest.length using Nat.strong_induction_on generalizing cursor with
  | _ length ih =>
      subst hlength
      cases hnext : lexer.next? cursor with
      | none =>
          have hpull : (ofLexer lexer).pull cursor = (.ok none, cursor) := by
            simp [ofLexer, hnext]
          exact ⟨[], none, .ended hpull⟩
      | some found =>
          obtain ⟨item, cursor'⟩ := found
          cases item with
          | error e =>
              have hpull : (ofLexer lexer).pull cursor = (.error e, cursor') := by
                simp [ofLexer, hnext]
              exact ⟨[], some e, .failed hpull⟩
          | ok token =>
              obtain ⟨ts, e, hrest⟩ := ih _ (Lexer.length_lt_of_next? hnext) cursor' rfl
              refine ⟨token.terminal :: ts, e, .token ?_ hrest⟩
              simp [ofLexer, hnext]

namespace Parser

section

variable {σ ε : Type} {src : Source σ ε} {g : Grammar} {t : Table} {p q : Parser σ}
  {ts : List SymbolId} {e : Option ε}

/-- The tokens that a parser has before it, and the error after them. -/
inductive Ahead (src : Source σ ε) (e : Option ε) (p : Parser σ) : List SymbolId → Prop
  | known
      {a : SymbolId} {ts : List SymbolId}
      (hexhausted : p.exhausted = false)
      (hlookahead : p.lookahead = some a)
      (h : src.Supplies p.source ts e) :
      Ahead src e p (a :: ts)
  | unknown
      {ts : List SymbolId}
      (hexhausted : p.exhausted = false)
      (hlookahead : p.lookahead = none)
      (h : src.Supplies p.source ts e) :
      Ahead src e p ts
  | used
      (hexhausted : p.exhausted = true)
      (hlookahead : ∀ a ∈ p.lookahead, a = endMarker)
      (he : e = none) :
      Ahead src e p []

theorem ahead_start
    {s : σ}
    (h : src.Supplies s ts e)
    (limit : Nat) :
    Ahead src e (Parser.start g s limit) ts :=
  .unknown rfl rfl h

/-- Looking at the next token succeeds, unless there is none but an error. -/
theorem Peeking.ahead
    {r : Except ε SymbolId}
    (hpeeking : Peeking src p r q)
    (h : Ahead src e p ts) :
    (r = .ok (ts.headD endMarker) ∧ Ahead src e q ts) ∨
      (∃ x, r = .error x ∧ ts = [] ∧ e = some x) := by
  cases h with
  | known hexhausted hlookahead h =>
      left
      cases hpeeking with
      | known hknown =>
          rw [hlookahead] at hknown
          cases hknown
          exact ⟨rfl, .known hexhausted hlookahead h⟩
      | again hnone | pulled hnone | ended hnone | failed hnone =>
          rw [hlookahead] at hnone
          cases hnone
  | unknown hexhausted hlookahead h =>
      cases hpeeking with
      | known hknown =>
          rw [hlookahead] at hknown
          cases hknown
      | again _ htrue =>
          rw [hexhausted] at htrue
          cases htrue
      | pulled _ _ hpull =>
          cases h with
          | token hpull' h =>
              rw [hpull] at hpull'
              cases hpull'
              exact Or.inl ⟨rfl, .known hexhausted rfl h⟩
          | ended hpull' | failed hpull' =>
              rw [hpull] at hpull'
              cases hpull'
      | ended _ _ hpull =>
          cases h with
          | ended =>
              exact Or.inl ⟨rfl, .used rfl (by simp) rfl⟩
          | token hpull' | failed hpull' =>
              rw [hpull] at hpull'
              cases hpull'
      | failed _ _ hpull =>
          cases h with
          | failed hpull' =>
              rw [hpull] at hpull'
              cases hpull'
              exact Or.inr ⟨_, rfl, rfl, rfl⟩
          | token hpull' | ended hpull' =>
              rw [hpull] at hpull'
              cases hpull'
  | used hexhausted hlookahead he =>
      left
      cases hpeeking with
      | known hknown =>
          rw [hlookahead _ hknown]
          exact ⟨rfl, .used hexhausted hlookahead he⟩
      | again =>
          exact ⟨rfl, .used hexhausted (by simp) he⟩
      | pulled _ hfalse | ended _ hfalse | failed _ hfalse =>
          rw [hexhausted] at hfalse
          cases hfalse

/-- A step on a symbol of the stack consumes the next token or leaves it. -/
theorem Reduction.input
    {a top : SymbolId} {rest : List SymbolId} {events : List Event}
    (h : Reduction g t a top rest p events q) :
    q.exhausted = p.exhausted ∧ q.source = p.source ∧
      ((consumed g events = [] ∧ q.lookahead = p.lookahead) ∨
        (consumed g events = [a] ∧ q.lookahead = none)) := by
  cases h with
  | dropped htop =>
      exact ⟨rfl, rfl, Or.inl ⟨by simp [Event.consumed?, htop], rfl⟩⟩
  | matched htop hterm ha =>
      subst ha
      exact ⟨rfl, rfl, Or.inr ⟨by simp [Event.consumed?, htop, hterm], rfl⟩⟩
  | mismatched htop hterm ha =>
      exact ⟨rfl, rfl, Or.inl ⟨by simp [Event.consumed?, ha], rfl⟩⟩
  | cycled _ hterm | expanded _ hterm | vanished _ hterm | stuck _ hterm =>
      exact ⟨rfl, rfl, Or.inl ⟨by simp [Event.consumed?, hterm], rfl⟩⟩

/-- Nothing is consumed on the empty stack. -/
theorem Closing.consumed_eq_nil
    {a : SymbolId} {r : Except ε (List Event)}
    (h : Closing src a p r q) :
    consumed g (r.toOption.getD []) = [] := by
  cases h <;> rfl

theorem Ahead.kept
    (h : Ahead src e p ts)
    (hlookahead : q.lookahead = p.lookahead)
    (hexhausted : q.exhausted = p.exhausted)
    (hsource : q.source = p.source) :
    Ahead src e q ts := by
  cases h with
  | known hfalse hknown h =>
      exact .known (hexhausted.trans hfalse) (hlookahead.trans hknown) (hsource ▸ h)
  | unknown hfalse hnone h =>
      exact .unknown (hexhausted.trans hfalse) (hlookahead.trans hnone) (hsource ▸ h)
  | used htrue hknown he =>
      exact .used (hexhausted.trans htrue) (hlookahead ▸ hknown) he

theorem Ahead.taken
    (h : Ahead src e p ts)
    (hknown : p.lookahead ≠ none)
    (hlookahead : q.lookahead = none)
    (hexhausted : q.exhausted = p.exhausted)
    (hsource : q.source = p.source) :
    Ahead src e q (ts.drop 1) := by
  cases h with
  | known hfalse _ h =>
      exact .unknown (hexhausted.trans hfalse) hlookahead (hsource ▸ h)
  | unknown _ hnone =>
      exact absurd hnone hknown
  | used htrue _ he =>
      exact .used (hexhausted.trans htrue) (by simp [hlookahead]) he

/-- A step on a symbol of the stack takes away the token that it consumes. -/
theorem Reduction.ahead
    {a top : SymbolId} {rest : List SymbolId} {events : List Event}
    (hreduction : Reduction g t a top rest p events q)
    (hlookahead : p.lookahead = some a)
    (h : Ahead src e p ts) :
    Ahead src e q (ts.drop (consumed g events).length) := by
  obtain ⟨hexhausted, hsource, hinput⟩ := hreduction.input
  rcases hinput with ⟨hconsumed, hq⟩ | ⟨hconsumed, hq⟩
  · rw [hconsumed]
    exact h.kept hq hexhausted hsource
  · rw [hconsumed]
    exact h.taken (by simp [hlookahead]) hq hexhausted hsource

/-- On the empty stack, a parser accepts when nothing is ahead or a single end marker. -/
theorem Closing.accepted_iff
    {r : Except ε (List Event)}
    (hclosing : Closing src (ts.headD endMarker) p r q)
    (hrun : p.status = .running)
    (hlookahead : p.lookahead = some (ts.headD endMarker))
    (h : Ahead src e p ts) :
    q.status = .accepted ↔ ts = [] ∨ (ts = [endMarker] ∧ e = none) := by
  cases h with
  | known hexhausted hknown h =>
      cases hclosing with
      | trailing ha =>
          simpa using fun heq => absurd heq ha
      | accepted _ htrue =>
          rw [hexhausted] at htrue
          cases htrue
      | closed ha _ hpull =>
          cases h with
          | ended =>
              simpa using ha
          | token hpull' | failed hpull' =>
              rw [hpull] at hpull'
              cases hpull'
      | extra ha _ hpull =>
          cases h with
          | token =>
              simp
          | ended hpull' | failed hpull' =>
              rw [hpull] at hpull'
              cases hpull'
      | failed ha _ hpull =>
          cases h with
          | failed =>
              simp [hrun]
          | token hpull' | ended hpull' =>
              rw [hpull] at hpull'
              cases hpull'
  | unknown _ hnone =>
      rw [hlookahead] at hnone
      cases hnone
  | used hexhausted =>
      cases hclosing with
      | accepted =>
          simp
      | trailing ha =>
          exact absurd rfl ha
      | closed _ hfalse | extra _ hfalse | failed _ hfalse =>
          rw [hexhausted] at hfalse
          cases hfalse

end

end Parser
end PredictiveParsing

import PredictiveParsing.Table

/-!
# The predictive parser

A stack of symbols is worked off from the top: a terminal has to match the next token, a
non-terminal is replaced by the production that the table names for it, and `EPSILON` is dropped.
`Parser.step` makes one such move.

Tokens come from a source, which is asked only when a token is needed, may fail, and may be asked
again after a failure.  A source that is used up is read as endless end markers.  A source may also
give the end marker itself; then it is asked once more before the parser accepts, and any token it
still has is one too many.

Since an expansion need not use up a token, the parser keeps the non-terminals that it is expanding,
each with the height of the stack beneath it.  One that comes to the top again above itself derives
itself, and the parser gives up.
-/

namespace PredictiveParsing

/-- A way to get tokens from a state of type `σ`: a token, nothing at the end, or an error. -/
structure Source (σ ε : Type) where
  pull : σ → Except ε (Option SymbolId) × σ

namespace Source

/-- The tokens and errors of a list, one after the other. -/
def ofList (ε : Type) : Source (List (Except ε SymbolId)) ε where
  pull
    | [] => (.ok none, [])
    | .ok token :: rest => (.ok (some token), rest)
    | .error e :: rest => (.error e, rest)

end Source

/-- Why an input is not derived.  Symbols are of type `σ`: numbers in theory, names in messages. -/
inductive Rejection (σ : Type) where
  /-- the terminal on the stack is not the one that comes next -/
  | mismatch (expected found : σ)
  /-- the cell is empty, and the non-terminal may not vanish -/
  | noProduction (nonterminal lookahead : σ)
  /-- the derivation is complete before the input is -/
  | trailingInput (found : σ)
  /-- a non-terminal derives itself without a token -/
  | cycle (nonterminal : σ)
  | missingStart
deriving DecidableEq, Repr

def Rejection.map {σ τ : Type} (f : σ → τ) : Rejection σ → Rejection τ
  | .mismatch expected found => .mismatch (f expected) (f found)
  | .noProduction nonterminal lookahead => .noProduction (f nonterminal) (f lookahead)
  | .trailingInput found => .trailingInput (f found)
  | .cycle nonterminal => .cycle (f nonterminal)
  | .missingStart => .missingStart

/-- Whether the parser goes on. -/
inductive Status where
  | running
  | accepted
  | rejected (rejection : Rejection SymbolId)
deriving DecidableEq, Repr

/-- What a step does, in the order in which it is done. -/
inductive Event where
  | popped (top lookahead : SymbolId)
  | expanded (production : Nat)
  /-- a non-terminal without a production in its cell vanishes -/
  | vanished (nonterminal : SymbolId)
  | accepted
  | rejected (rejection : Rejection SymbolId)
deriving DecidableEq, Repr

/-- A parser at work.  The stack has its top first, the history its oldest token first. -/
structure Parser (σ : Type) where
  status : Status
  stack : List SymbolId
  lookahead : Option SymbolId
  /-- the source is not asked again -/
  exhausted : Bool
  history : List SymbolId
  historyLimit : Nat
  /-- non-terminals expanded since the last token, and the height of the stack beneath them -/
  expanding : List (SymbolId × Nat)
  source : σ
deriving DecidableEq, Repr

namespace Parser

/-- The number of tokens that are remembered unless told otherwise. -/
def defaultHistoryLimit : Nat :=
  5

/-- A parser before its first step.  Without a start symbol it has rejected already. -/
def start {σ : Type} (g : Grammar) (source : σ) (historyLimit : Nat) : Parser σ :=
  let (status, stack) : Status × List SymbolId :=
    match g.start with
    | .ok nt => (.running, [nt])
    | .error _ => (.rejected .missingStart, [])
  { status := status
    stack := stack
    lookahead := none
    exhausted := false
    history := []
    historyLimit := historyLimit
    expanding := []
    source := source }

section

variable {σ ε : Type}

/-- The rejection of a parser that has rejected. -/
def rejection? (p : Parser σ) : Option (Rejection SymbolId) :=
  match p.status with
  | .rejected r => some r
  | _ => none

def isRunning (p : Parser σ) : Bool :=
  p.status == .running

/-- The outcome of a step and the parser after it. -/
abbrev Stepped (σ ε : Type) := Except ε (List Event) × Parser σ

def reject (p : Parser σ) (events : List Event) (r : Rejection SymbolId) : Stepped σ ε :=
  (.ok (events ++ [.rejected r]), { p with status := .rejected r })

/-- The token that comes next, which the source is asked for unless it is known. -/
def peek (src : Source σ ε) (p : Parser σ) : Except ε SymbolId × Parser σ :=
  match p.lookahead with
  | some token => (.ok token, p)
  | none =>
      if p.exhausted then (.ok endMarker, { p with lookahead := some endMarker })
      else
        match src.pull p.source with
        | (.error e, source) => (.error e, { p with source := source })
        | (.ok (some token), source) =>
            (.ok token, { p with source := source, lookahead := some token })
        | (.ok none, source) =>
            (.ok endMarker,
              { p with source := source, exhausted := true, lookahead := some endMarker })

def accept (p : Parser σ) : Stepped σ ε :=
  (.ok [.accepted], { p with status := .accepted })

/-- The step on an empty stack.  The input has to be at its end; an end marker that the source gave
itself has to be the last token. -/
def finish (src : Source σ ε) (lookahead : SymbolId) (p : Parser σ) : Stepped σ ε :=
  if lookahead ≠ endMarker then p.reject [] (.trailingInput lookahead)
  else if p.exhausted then p.accept
  else
    match src.pull p.source with
    | (.error e, source) => (.error e, { p with source := source, exhausted := true })
    | (.ok (some token), source) =>
        { p with source := source, exhausted := true }.reject [] (.trailingInput token)
    | (.ok none, source) => { p with source := source, exhausted := true }.accept

/-- A token moves from the input to the history. -/
def consume (p : Parser σ) (token : SymbolId) : Parser σ :=
  let history := p.history ++ [token]
  { p with
    history := history.drop (history.length - p.historyLimit)
    lookahead := none
    expanding := [] }

/-- The step that takes `top` from a stack of which `rest` is left. -/
def reduce (g : Grammar) (t : Table) (lookahead top : SymbolId) (rest : List SymbolId)
    (p : Parser σ) : Stepped σ ε :=
  let depth := rest.length
  let expanding := p.expanding.filter fun e => e.2 ≤ depth
  let popped := Event.popped top lookahead
  let kept := { p with expanding := expanding }
  if top = epsilon then (.ok [popped], { kept with stack := rest })
  else if g.isTerminal top then
    if top = lookahead then (.ok [popped], { kept with stack := rest }.consume lookahead)
    else kept.reject [popped] (.mismatch top lookahead)
  else if expanding.any (fun e => e.1 == top) then kept.reject [popped] (.cycle top)
  else
    let entered := { p with expanding := (top, depth) :: expanding }
    match t.get? top lookahead with
    | some ix =>
        let rhs := (g.productions[ix]?.map Production.rhs).getD []
        (.ok [popped, .expanded ix], { entered with stack := rhs ++ rest })
    | none =>
        if g.hasEmptyProduction top then
          (.ok [popped, .vanished top], { entered with stack := rest })
        else entered.reject [popped] (.noProduction top lookahead)

/-- One move of the parser.  After an error of the source it is running still. -/
def step (src : Source σ ε) (g : Grammar) (t : Table) (p : Parser σ) : Stepped σ ε :=
  if !p.isRunning then (.ok [], p)
  else
    match p.peek src with
    | (.error e, p) => (.error e, p)
    | (.ok lookahead, p) =>
        match p.stack with
        | [] => p.finish src lookahead
        | top :: rest => p.reduce g t lookahead top rest

/-- How a run ends. -/
inductive Ending (ε : Type) where
  /-- the parser accepts or rejects -/
  | stopped
  /-- the source fails -/
  | failed (error : ε)
  /-- the limit is reached -/
  | unfinished
deriving DecidableEq, Repr

/-- A run: how it ends, the parser then, and all that happened, the last event first. -/
structure Run (σ ε : Type) where
  ending : Ending ε
  parser : Parser σ
  events : List Event

/-- Makes steps until the parser stops or the source fails, but no more than `limit`; `events` are
those before. -/
def runFrom (src : Source σ ε) (g : Grammar) (t : Table) :
    Nat → List Event → Parser σ → Run σ ε
  | 0, events, p =>
      { ending := if p.isRunning then .unfinished else .stopped, parser := p, events := events }
  | limit + 1, events, p =>
      if !p.isRunning then { ending := .stopped, parser := p, events := events }
      else
        match p.step src g t with
        | (.error e, p) => { ending := .failed e, parser := p, events := events }
        | (.ok new, p) => runFrom src g t limit (new.reverse ++ events) p

/-- A whole run of at most `limit` steps. -/
def run (src : Source σ ε) (g : Grammar) (t : Table) (limit : Nat) (p : Parser σ) : Run σ ε :=
  runFrom src g t limit [] p

/-- More steps than any run takes that comes to an end in a lifetime. -/
def stepLimit : Nat :=
  1 <<< 62

end

end Parser
end PredictiveParsing

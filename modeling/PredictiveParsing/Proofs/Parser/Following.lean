import PredictiveParsing.Proofs.Parser.Guard
import PredictiveParsing.Proofs.Parser.Input
import Mathlib.Tactic

/-!
# A parser follows what its stack spells

With a table that was built, a parser has no choice, and so it does what has to be done: when its
stack can spell the tokens that come next, it consumes them and arrives at what the spelling leaves
of the stack (`Parser.advances_of_spells`).  The proof is an induction over the spelling, in step with
the parser.  The table has the production that the spelling uses, since this production exposes the
token that comes next, and the parser does not give up, since no non-terminal comes back above itself.
-/

namespace PredictiveParsing
namespace Parser

section

variable {σ ε : Type} {src : Source σ ε} {g : Grammar} {t : Table} {p q : Parser σ}
  {ts : List SymbolId}

/-- A number of steps, all of them made while the parser is running and without an error. -/
inductive Advances (src : Source σ ε) (g : Grammar) (t : Table) :
    Nat → Parser σ → Parser σ → Prop
  | refl (p : Parser σ) : Advances src g t 0 p p
  | step
      {n : Nat} {p p' q : Parser σ} {events : List Event}
      (hrun : p.status = .running)
      (hstep : p.step src g t = (.ok events, p'))
      (h : Advances src g t n p' q) :
      Advances src g t (n + 1) p q

theorem Reaches.trans
    {events others : List Event} {p' : Parser σ}
    (h : Reaches src g t p events p')
    (h' : Reaches src g t p' others q) :
    Reaches src g t p (events ++ others) q := by
  induction h' with
  | refl =>
      simpa using h
  | step _ ih =>
      rw [← List.append_assoc]
      exact ih.step

theorem Advances.reaches
    {n : Nat}
    (h : Advances src g t n p q) :
    ∃ events, Reaches src g t p events q := by
  induction h with
  | refl =>
      exact ⟨[], .refl⟩
  | @step _ p _ _ _ _ hstep _ ih =>
      obtain ⟨events, hreaches⟩ := ih
      have hrefl : Reaches src g t p [] p := .refl
      have hfirst := hrefl.step
      rw [hstep] at hfirst
      exact ⟨_, hfirst.trans hreaches⟩

/-- A parser that can go on: it has these tokens before it and no error after them, and its record
is in order. -/
structure Ready (src : Source σ ε) (g : Grammar) (t : Table) (p : Parser σ)
    (ts : List SymbolId) : Prop where
  running : p.status = .running
  ahead : Ahead src none p ts
  guarded : Guarded t g p

theorem ready_start
    {S : SymbolId}
    (hstart : g.start = .ok S)
    {s : σ}
    (hsource : src.Supplies s ts none)
    (limit : Nat) :
    Ready src g t (Parser.start g s limit) ts where
  running := (start_eq hstart s limit).1
  ahead := ahead_start hsource limit
  guarded := guarded_start t g s limit

theorem Ready.peeking
    (hp : Ready src g t p ts)
    {r : Except ε SymbolId}
    (hpeeking : Peeking src p r q) :
    r = .ok (ts.headD endMarker) ∧ Ready src g t q ts := by
  rcases hpeeking.ahead hp.ahead with ⟨hr, hq⟩ | ⟨_, _, _, hnone⟩
  · exact ⟨hr, hpeeking.unchanged.1.trans hp.running, hq, hp.guarded.peeking hpeeking⟩
  · cases hnone

/-- A parser that can go on takes the top from its stack. -/
theorem Ready.step
    (hp : Ready src g t p ts)
    {top : SymbolId} {rest : List SymbolId}
    (hstack : p.stack = top :: rest) :
    ∃ p' events q, p.step src g t = (.ok events, q) ∧
      Ready src g t p' ts ∧ p'.stack = top :: rest ∧
      p'.lookahead = some (ts.headD endMarker) ∧
      Reduction g t (ts.headD endMarker) top rest p' events q := by
  have hspec := step_spec src g t p
  generalize hstep : p.step src g t = result at hspec
  obtain ⟨r, q⟩ := result
  dsimp only at hspec
  cases hspec with
  | idle hrun =>
      exact absurd hp.running hrun
  | unread hrun hpeeking =>
      cases (hp.peeking hpeeking).1
  | finished hrun hpeeking hnil =>
      rw [hstack] at hnil
      cases hnil
  | @reduced _ a p' hpeeking top' rest' hstack' events _ hreduction =>
      rw [hstack] at hstack'
      obtain ⟨rfl, rfl⟩ := List.cons_eq_cons.1 hstack'
      obtain ⟨heq, hready⟩ := hp.peeking hpeeking
      cases heq
      exact ⟨p', events, q, rfl, hready, hpeeking.unchanged.2.1.trans hstack,
        hpeeking.lookahead, hreduction⟩

theorem Ready.reduction
    (hp : Ready src g t p ts)
    {top : SymbolId} {rest : List SymbolId} {events : List Event}
    (hlookahead : p.lookahead = some (ts.headD endMarker))
    (hstack : p.stack = top :: rest)
    (hreduction : Reduction g t (ts.headD endMarker) top rest p events q)
    (hrun : q.status = .running) :
    Ready src g t q (ts.drop (consumed g events).length) where
  running := hrun
  ahead := hreduction.ahead hlookahead hp.ahead
  guarded := hp.guarded.reduction hlookahead hstack hreduction hrun

theorem Ready.drop
    (hp : Ready src g t p ts)
    {rest : List SymbolId}
    (hstack : p.stack = epsilon :: rest) :
    ∃ events q, p.step src g t = (.ok events, q) ∧ Ready src g t q ts ∧ q.stack = rest ∧
      consumed g events = [] := by
  obtain ⟨p', events, q, hstep, hp', hstack', hlookahead, hreduction⟩ := hp.step hstack
  cases hreduction with
  | dropped =>
      have hq := hp'.reduction hlookahead hstack' (.dropped rfl) hp'.running
      have hconsumed : consumed g [.popped epsilon (ts.headD endMarker)] = [] := by
        simp [Event.consumed?]
      rw [hconsumed] at hq
      exact ⟨_, _, hstep, hq, rfl, hconsumed⟩
  | matched heps | mismatched heps | cycled heps | expanded heps | vanished heps | stuck heps =>
      exact absurd rfl heps

theorem Ready.emit
    (hp : Ready src g t p ts)
    {a : SymbolId} {rest : List SymbolId}
    (heps : a ≠ epsilon)
    (hterm : g.isTerminal a = true)
    (ha : a = ts.headD endMarker)
    (hstack : p.stack = a :: rest) :
    ∃ events q, p.step src g t = (.ok events, q) ∧
      Ready src g t q (ts.drop 1) ∧ q.stack = rest ∧ consumed g events = [a] := by
  obtain ⟨p', events, q, hstep, hp', hstack', hlookahead, hreduction⟩ := hp.step hstack
  cases hreduction with
  | matched =>
      have hq := hp'.reduction hlookahead hstack' (.matched heps hterm ha) hp'.running
      have hconsumed : consumed g [.popped a (ts.headD endMarker)] = [a] := by
        rw [← ha]
        simp [Event.consumed?, heps, hterm]
      rw [hconsumed] at hq
      exact ⟨_, _, hstep, hq, rfl, hconsumed⟩
  | dropped htop =>
      exact absurd htop heps
  | mismatched _ _ hne =>
      exact absurd ha hne
  | cycled _ hnonterm | expanded _ hnonterm | vanished _ hnonterm | stuck _ hnonterm =>
      rw [hterm] at hnonterm
      cases hnonterm

theorem Ready.expand
    (hg : g.WellFormed)
    (ht : Table.ofGrammar g = .ok t)
    (hp : Ready src g t p ts)
    {A : SymbolId} {rest : List SymbolId} {ix : Nat}
    (heps : A ≠ epsilon)
    (hterm : g.isTerminal A = false)
    (hcell : t.get? A (ts.headD endMarker) = some ix)
    (hstack : p.stack = A :: rest) :
    ∃ events q, p.step src g t = (.ok events, q) ∧ Ready src g t q ts ∧
      q.stack = (g.productions[ix]?.map Production.rhs).getD [] ++ rest ∧
      consumed g events = [] := by
  obtain ⟨p', events, q, hstep, hp', hstack', hlookahead, hreduction⟩ := hp.step hstack
  have hfresh := hp'.guarded.fresh hg ht hlookahead hstack'
  cases hreduction with
  | expanded _ _ _ hcell' =>
      rw [hcell] at hcell'
      cases hcell'
      have hq := hp'.reduction hlookahead hstack' (.expanded heps hterm hfresh hcell) hp'.running
      have hconsumed : consumed g [.popped A (ts.headD endMarker), .expanded ix] = [] := by
        simp [Event.consumed?, hterm]
      rw [hconsumed] at hq
      exact ⟨_, _, hstep, hq, rfl, hconsumed⟩
  | dropped htop =>
      exact absurd htop heps
  | matched _ hterm' | mismatched _ hterm' =>
      rw [hterm] at hterm'
      cases hterm'
  | cycled _ _ hopen =>
      exact absurd hopen (hfresh _)
  | vanished _ _ _ hcell' | stuck _ _ _ hcell' =>
      rw [hcell] at hcell'
      cases hcell'

/-- A non-terminal is replaced by the production that exposes the token that comes next, since the
table has no other for it. -/
theorem Ready.predict
    (hg : g.WellFormed)
    (ht : Table.ofGrammar g = .ok t)
    {S : SymbolId}
    (hstart : g.start = .ok S)
    (hp : Ready src g t p ts)
    {production : Production} {before rest : List SymbolId}
    (hproduction : production ∈ g.productions)
    (hform : g.Derives [S] (before ++ form (production.lhs :: rest)))
    (hexposes : g.Exposes (ts.headD endMarker) (production.rhs ++ rest))
    (hstack : p.stack = production.lhs :: rest) :
    ∃ events q, p.step src g t = (.ok events, q) ∧ Ready src g t q ts ∧
      q.stack = production.rhs ++ rest ∧ consumed g events = [] := by
  have hterm := hg.lhs_nonterminal production hproduction
  obtain ⟨ix, hix⟩ := List.mem_iff_getElem?.1 hproduction
  have hcell := Table.get?_of_exposes hg ht hstart hix hform hexposes
  obtain ⟨events, q, hstep, hq, hqstack, hconsumed⟩ :=
    hp.expand hg ht (hg.ne_epsilon hterm) hterm hcell hstack
  exact ⟨events, q, hstep, hq, by simpa [hix] using hqstack, hconsumed⟩

/-- The token that comes next is the first of the word that the input begins with, or the one after
an empty word. -/
theorem headD_of_isPrefix
    {word : List SymbolId} {k : Nat}
    (h : word <+: ts ++ List.replicate k endMarker) :
    word.headD ((ts.drop word.length).headD endMarker) = ts.headD endMarker := by
  cases word with
  | nil =>
      rfl
  | cons a word =>
      cases ts with
      | nil =>
          have hmem : a ∈ List.replicate k endMarker := h.subset List.mem_cons_self
          exact (List.mem_replicate.1 hmem).2
      | cons b ts =>
          exact (List.cons_prefix_cons.1 h).1

theorem isPrefix_drop_one
    {a : SymbolId} {word : List SymbolId} {k : Nat}
    (h : a :: word <+: ts ++ List.replicate k endMarker) :
    ∃ k, word <+: ts.drop 1 ++ List.replicate k endMarker := by
  cases ts with
  | nil =>
      cases k with
      | zero =>
          exact absurd h (by simp)
      | succ k =>
          rw [List.replicate_succ] at h
          exact ⟨k, (List.cons_prefix_cons.1 h).2⟩
  | cons b ts =>
      exact ⟨k, (List.cons_prefix_cons.1 h).2⟩

theorem exposes_of_spells
    {stack word rest : List SymbolId}
    (hspells : g.Spells stack word rest)
    (hinput : ∃ k, word <+: ts ++ List.replicate k endMarker)
    (hrest : g.Exposes ((ts.drop word.length).headD endMarker) rest) :
    g.Exposes (ts.headD endMarker) stack := by
  obtain ⟨k, hinput⟩ := hinput
  rw [← headD_of_isPrefix hinput]
  exact hspells.exposes fun _ => hrest

/-- A parser whose stack spells a word consumes it, when the input begins with that word and what is
left of the stack exposes the token after it. -/
theorem advances_of_spells
    (hg : g.WellFormed)
    (ht : Table.ofGrammar g = .ok t)
    {S : SymbolId}
    (hstart : g.start = .ok S)
    {stack word rest before : List SymbolId}
    (hspells : g.Spells stack word rest)
    (hform : g.Derives [S] (before ++ form stack))
    (hp : Ready src g t p ts)
    (hstack : p.stack = stack)
    (hinput : ∃ k, word <+: ts ++ List.replicate k endMarker)
    (hrest : g.Exposes ((ts.drop word.length).headD endMarker) rest) :
    ∃ n q, Advances src g t n p q ∧ word.length ≤ n ∧
      Ready src g t q (ts.drop word.length) ∧ q.stack = rest := by
  induction hspells generalizing p ts before with
  | done stack =>
      exact ⟨0, p, .refl p, le_refl 0, hp, hstack⟩
  | drop hspells ih =>
      obtain ⟨events, p', hstep, hp', hstack', _⟩ := hp.drop hstack
      rw [form_epsilon_cons] at hform
      obtain ⟨n, q, hadvances, hn, hq⟩ := ih hform hp' hstack' hinput hrest
      exact ⟨n + 1, q, .step hp.running hstep hadvances, by omega, hq⟩
  | @emit a stack word rest heps hterm hspells ih =>
      obtain ⟨k, hinput⟩ := hinput
      have ha : a = ts.headD endMarker := headD_of_isPrefix hinput
      obtain ⟨events, p', hstep, hp', hstack', _⟩ := hp.emit heps hterm ha hstack
      rw [form_cons heps, List.append_cons] at hform
      rw [List.length_cons, Nat.add_comm, ← List.drop_drop] at hrest ⊢
      obtain ⟨n, q, hadvances, hn, hq⟩ :=
        ih hform hp' hstack' (isPrefix_drop_one hinput) hrest
      exact ⟨n + 1, q, .step hp.running hstep hadvances, by omega, hq⟩
  | @expand production stack word rest hproduction hspells ih =>
      have hexposes := exposes_of_spells hspells hinput hrest
      obtain ⟨events, p', hstep, hp', hstack', _⟩ :=
        hp.predict hg ht hstart hproduction hform hexposes hstack
      have hform' := hform.replace_top (hg.derives_rhs hproduction)
      obtain ⟨n, q, hadvances, hn, hq⟩ := ih hform' hp' hstack' hinput hrest
      exact ⟨n + 1, q, .step hp.running hstep hadvances, by omega, hq⟩

end

end Parser
end PredictiveParsing

import PredictiveParsing.Proofs.Parser.Leftmost
import PredictiveParsing.Proofs.Parser.Load
import Mathlib.Tactic

/-!
# The work between two tokens

With any table, however wrong, a parser makes only so many steps until it matches a token, stops or is
failed by its source.  The reason is the record of the non-terminals that it is expanding: it holds
each of them once (`Parser.Recorded`), and a non-terminal on record is not expanded again.  So every
other step makes the load of the stack smaller (`Reduction.load_lt`), and there are no more of them
than the load.

The bound is the height of the stack times the weight of a symbol, and so it depends on the number of
non-terminals and the longest right-hand side only.
-/

namespace PredictiveParsing
namespace Parser

section

variable {σ ε : Type} {src : Source σ ε} {g : Grammar} {t : Table} {p q : Parser σ}
  {stack rest : List SymbolId} {top : SymbolId} {entered others : List (SymbolId × Nat)}

/-- A stack of registered symbols, and a record of non-terminals, each of them once. -/
structure Recorded (g : Grammar) (stack : List SymbolId) (entered : List (SymbolId × Nat)) :
    Prop where
  stack_lt : ∀ id ∈ stack, id < g.symbols.size
  nodup : (entered.map Prod.fst).Nodup
  nonterminals : ∀ x ∈ entered, x.1 ∈ g.symbols.nonterminals

theorem Recorded.top_mem
    (h : Recorded g (top :: rest) entered)
    (hterm : g.isTerminal top = false) :
    top ∈ g.symbols.nonterminals :=
  SymbolTable.mem_nonterminals.2 ⟨h.stack_lt top List.mem_cons_self, hterm⟩

/-- Some of the record may be forgotten. -/
theorem Recorded.forget
    (h : Recorded g stack entered)
    (hothers : List.Sublist others entered) :
    Recorded g stack others where
  stack_lt := h.stack_lt
  nodup := h.nodup.sublist (hothers.map Prod.fst)
  nonterminals := fun x hx => h.nonterminals x (hothers.subset hx)

/-- Registered symbols may come in the place of the top. -/
theorem Recorded.replace
    (h : Recorded g (top :: rest) entered)
    (new : List SymbolId)
    (hnew : ∀ id ∈ new, id < g.symbols.size) :
    Recorded g (new ++ rest) entered where
  stack_lt := by
    intro id hid
    rcases List.mem_append.1 hid with hid | hid
    · exact hnew id hid
    · exact h.stack_lt id (List.mem_cons_of_mem top hid)
  nodup := h.nodup
  nonterminals := h.nonterminals

/-- A non-terminal that is not on record may be added to it. -/
theorem Recorded.enter
    (h : Recorded g stack entered)
    {A : SymbolId}
    (hA : A ∈ g.symbols.nonterminals)
    (hfresh : ∀ d, (A, d) ∉ entered)
    (height : Nat) :
    Recorded g stack ((A, height) :: entered) where
  stack_lt := h.stack_lt
  nodup := by
    rw [List.map_cons, List.nodup_cons]
    refine ⟨fun hmem => ?_, h.nodup⟩
    obtain ⟨⟨B, d⟩, hold, rfl⟩ := List.mem_map.1 hmem
    exact hfresh d hold
  nonterminals := by
    intro x hx
    rcases List.mem_cons.1 hx with rfl | hx
    · exact hA
    · exact h.nonterminals x hx

theorem recorded_start
    (g : Grammar) (s : σ) (limit : Nat) :
    Recorded g (Parser.start g s limit).stack (Parser.start g s limit).expanding where
  stack_lt := by
    intro id hid
    cases hstart : g.start with
    | error fault =>
        simp [Parser.start, hstart] at hid
    | ok S =>
        rw [(start_eq hstart s limit).2, List.mem_singleton] at hid
        rw [hid]
        exact (Grammar.start_eq_ok hstart).1
  nodup := List.nodup_nil
  nonterminals := by
    intro x hx
    cases hx

/-- The symbols that an index brings onto a stack are registered. -/
theorem lt_size_of_mem_getD
    (hsymbols : ∀ p ∈ g.productions, ∀ id ∈ p.rhs, id < g.symbols.size)
    (ix : Nat) :
    ∀ id ∈ (g.productions[ix]?.map Production.rhs).getD [], id < g.symbols.size := by
  intro id hid
  cases hix : g.productions[ix]? with
  | none =>
      simp [hix] at hid
  | some production =>
      rw [hix] at hid
      exact hsymbols production (List.mem_of_getElem? hix) id hid

theorem Reduction.recorded
    (hsymbols : ∀ p ∈ g.productions, ∀ id ∈ p.rhs, id < g.symbols.size)
    (h : Recorded g p.stack p.expanding)
    (hstack : p.stack = top :: rest)
    {a : SymbolId} {events : List Event}
    (hreduction : Reduction g t a top rest p events q) :
    Recorded g q.stack q.expanding := by
  have hopen : List.Sublist (p.openAt rest.length) p.expanding := List.filter_sublist
  have hold := h.forget hopen
  have htop := hold
  rw [hstack] at htop
  cases hreduction with
  | dropped =>
      exact htop.replace [] (by simp)
  | matched =>
      exact (htop.replace [] (by simp)).forget (List.nil_sublist _)
  | mismatched | cycled =>
      exact hold
  | @expanded _ hterm hfresh ix hcell =>
      exact (htop.replace _ (lt_size_of_mem_getD hsymbols ix)).enter (htop.top_mem hterm) hfresh _
  | vanished _ hterm hfresh =>
      exact (htop.replace [] (by simp)).enter (htop.top_mem hterm) hfresh _
  | stuck _ hterm hfresh =>
      exact hold.enter (htop.top_mem hterm) hfresh _

theorem Transition.recorded
    (hsymbols : ∀ p ∈ g.productions, ∀ id ∈ p.rhs, id < g.symbols.size)
    (h : Recorded g p.stack p.expanding)
    {r : Except ε (List Event)}
    (htransition : Transition src g t p r q) :
    Recorded g q.stack q.expanding := by
  cases htransition with
  | idle =>
      exact h
  | unread _ hpeeking =>
      obtain ⟨_, hstack, hexpanding⟩ := hpeeking.unchanged
      rw [hstack, hexpanding]
      exact h
  | finished _ hpeeking _ hclosing =>
      obtain ⟨_, hstack, hexpanding⟩ := hpeeking.unchanged
      rw [← hstack, ← hexpanding] at h
      cases hclosing <;> exact h
  | reduced _ hpeeking hcons hreduction =>
      obtain ⟨_, hstack, hexpanding⟩ := hpeeking.unchanged
      rw [← hstack, ← hexpanding] at h
      exact hreduction.recorded hsymbols h (hstack.trans hcons)

theorem Reaches.recorded
    (hsymbols : ∀ p ∈ g.productions, ∀ id ∈ p.rhs, id < g.symbols.size)
    (hp : Recorded g p.stack p.expanding)
    {events : List Event}
    (h : Reaches src g t p events q) :
    Recorded g q.stack q.expanding := by
  induction h with
  | refl =>
      exact hp
  | @step _ q _ ih =>
      exact (step_spec src g t q).recorded hsymbols ih

/-! ### Every other step makes the load smaller -/

/-- What the stack of a parser can still lead to. -/
def work (g : Grammar) (p : Parser σ) : Nat :=
  load g.longest g.symbols.nonterminals.length p.expanding p.stack

theorem work_le
    (g : Grammar) (p : Parser σ) :
    work g p ≤ p.stack.length * weight g.longest g.symbols.nonterminals.length :=
  load_le _ _ _ _

/-- The next step of a parser fails, or it matches a token, or the parser stops with it. -/
def Decisive (src : Source σ ε) (g : Grammar) (t : Table) (p : Parser σ) : Prop :=
  (∃ e, (p.step src g t).1 = .error e) ∨
    (∃ events, (p.step src g t).1 = .ok events ∧ consumed g events ≠ []) ∨
    (p.step src g t).2.status ≠ .running

theorem Reduction.work_lt
    (h : Recorded g p.stack p.expanding)
    (hstack : p.stack = top :: rest)
    {a : SymbolId} {events : List Event}
    (hreduction : Reduction g t a top rest p events q)
    (hconsumed : consumed g events = [])
    (hrun : q.status = .running) :
    work g q < work g p := by
  have hopen : List.Sublist (p.openAt rest.length) p.expanding := List.filter_sublist
  have hold := h.forget hopen
  rw [hstack] at hold
  have hroom : ∀ (hterm : g.isTerminal top = false)
      (hfresh : ∀ d, (top, d) ∉ p.openAt rest.length),
      (p.openAt rest.length).length < g.symbols.nonterminals.length := by
    intro hterm hfresh
    exact length_lt_of_fresh hold.nodup hold.nonterminals (hold.top_mem hterm) hfresh
  unfold work
  rw [hstack]
  cases hreduction with
  | dropped =>
      exact load_pop top rest
  | matched htop hterm ha =>
      subst ha
      simp [Event.consumed?, htop, hterm] at hconsumed
  | mismatched | cycled | stuck =>
      cases hrun
  | @expanded _ hterm hfresh ix hcell =>
      exact load_push top (g.length_getD_le_longest ix) (hroom hterm hfresh)
  | vanished _ hterm hfresh =>
      have hnone : ([] : List SymbolId).length ≤ g.longest := Nat.zero_le _
      exact load_push top hnone (hroom hterm hfresh)

theorem work_lt_of_not_decisive
    (h : Recorded g p.stack p.expanding)
    (hrun : p.status = .running)
    (hstep : ¬ Decisive src g t p) :
    work g (p.step src g t).2 < work g p := by
  have hspec := step_spec src g t p
  unfold Decisive at hstep
  generalize (p.step src g t).1 = r at hspec hstep
  generalize (p.step src g t).2 = q at hspec hstep ⊢
  simp only [not_or, not_exists, not_and, not_not] at hstep
  obtain ⟨hok, hconsumed, hstatus⟩ := hstep
  cases hspec with
  | idle hstopped =>
      exact absurd hrun hstopped
  | unread =>
      exact absurd rfl (hok _)
  | finished _ _ _ hclosing =>
      cases hclosing with
      | failed =>
          exact absurd rfl (hok _)
      | trailing | accepted | closed | extra =>
          cases hstatus
  | @reduced _ _ p' hpeeking _ _ hcons _ _ hreduction =>
      obtain ⟨_, hstack, hexpanding⟩ := hpeeking.unchanged
      have hsame : work g p' = work g p := by
        simp only [work, hstack, hexpanding]
      rw [← hstack, ← hexpanding] at h
      rw [← hsame]
      exact hreduction.work_lt h (hstack.trans hcons) (hconsumed _ rfl) hstatus

/-- A running parser comes to a decisive step before its work is done. -/
theorem Recorded.exists_decisive
    (hsymbols : ∀ p ∈ g.productions, ∀ id ∈ p.rhs, id < g.symbols.size)
    (h : Recorded g p.stack p.expanding)
    (hrun : p.status = .running) :
    ∃ n ≤ work g p, Decisive src g t (after src g t n p) := by
  induction hwork : work g p using Nat.strong_induction_on generalizing p with
  | _ w ih =>
      subst hwork
      by_cases hstep : Decisive src g t p
      · exact ⟨0, Nat.zero_le _, hstep⟩
      · have hlt := work_lt_of_not_decisive h hrun hstep
        have hnext := (step_spec src g t p).recorded hsymbols h
        have hrun' : (p.step src g t).2.status = .running := by
          by_contra hstopped
          exact hstep (Or.inr (Or.inr hstopped))
        obtain ⟨n, hn, hdecisive⟩ := ih _ hlt hnext hrun' rfl
        exact ⟨n + 1, by omega, hdecisive⟩

/-- **The work between two tokens is bounded.**  With any table, over any source, a running parser
matches a token, fails, accepts or rejects after no more steps than the height of its stack times a
number that depends on the non-terminals and the longest right-hand side only.  Of the grammar it is
asked that its productions mention registered symbols, as they do in every grammar that declarations
can make (`Grammar.WellFormed.rhs_lt`). -/
theorem work_is_bounded
    (hsymbols : ∀ p ∈ g.productions, ∀ id ∈ p.rhs, id < g.symbols.size)
    (t : Table) (src : Source σ ε) (s : σ) (limit : Nat)
    {events : List Event}
    (h : Reaches src g t (Parser.start g s limit) events q)
    (hrun : q.status = .running) :
    ∃ n ≤ q.stack.length * weight g.longest g.symbols.nonterminals.length,
      (∃ e, ((after src g t n q).step src g t).1 = .error e) ∨
      (∃ new, ((after src g t n q).step src g t).1 = .ok new ∧ consumed g new ≠ []) ∨
      ((after src g t n q).step src g t).2.status ≠ .running := by
  have hrecorded := h.recorded hsymbols (recorded_start g s limit)
  have hexists : ∃ n ≤ work g q, Decisive src g t (after src g t n q) :=
    hrecorded.exists_decisive hsymbols hrun
  obtain ⟨n, hn, hdecisive⟩ := hexists
  exact ⟨n, hn.trans (work_le g q), hdecisive⟩

/-- A table that expands `T` by the production of `E` leaves three symbols on the stack after two
steps over `id`.  A decisive step comes no later than 120 steps after that. -/
theorem work_is_bounded_sums :
    ∃ n ≤ 120,
      Decisive (Source.ofList Unit) Grammar.sums { rows := [(4, [(3, 0)]), (6, [(3, 0)])] }
        (after (Source.ofList Unit) Grammar.sums { rows := [(4, [(3, 0)]), (6, [(3, 0)])] } n
          ((Parser.start Grammar.sums [.ok 3] defaultHistoryLimit).run (Source.ofList Unit)
            Grammar.sums { rows := [(4, [(3, 0)]), (6, [(3, 0)])] } 2).parser) := by
  have hbound :
      ((Parser.start Grammar.sums [.ok 3] defaultHistoryLimit).run (Source.ofList Unit)
          Grammar.sums { rows := [(4, [(3, 0)]), (6, [(3, 0)])] } 2).parser.stack.length *
        weight Grammar.sums.longest Grammar.sums.symbols.nonterminals.length = 120 := by
    decide +kernel
  rw [← hbound]
  exact work_is_bounded (by decide) _ (Source.ofList Unit) [.ok 3] defaultHistoryLimit
    (reaches_run _ _ _ 2 _) (by decide +kernel)

end

end Parser
end PredictiveParsing

import PredictiveParsing.Proofs.Parser.Language
import PredictiveParsing.Proofs.Parser.Load
import Mathlib.Tactic

/-!
# When a run ends

A run over a finite source can only go on for ever after the last token, where the parser matches end
markers that are not there.  Then some non-terminal comes back above itself with end markers matched
in between, and so it derives end markers in front of itself (`Grammar.LoopsAfter`).  Without such a
non-terminal every run ends (`Parser.Tracked.halts`).

The measure is the number of tokens ahead, and then the load of the stack.  The record of the parser
does not serve for the load, since the parser starts it afresh at every match.  `Parser.Tracked` keeps
one of its own, which is started afresh at the match of a token only, but not at the match of an end
marker that is not there.
-/

namespace PredictiveParsing

namespace Grammar

/-- The start symbol derives some tokens, then perhaps end markers, and then a non-terminal that
derives end markers in front of itself. -/
def LoopsAfter (g : Grammar) (S : SymbolId) (ts : List SymbolId) : Prop :=
  (∀ id ∈ ts, g.isTerminal id = true) ∧
    ∃ (A : SymbolId) (j k : Nat) (after others : List SymbolId),
      g.isTerminal A = false ∧
      g.Derives [S] (ts ++ List.replicate j endMarker ++ A :: after) ∧
      g.Derives [A] (List.replicate (k + 1) endMarker ++ A :: others)

/-- Where no production mentions the end marker, none is derived. -/
theorem Derives.endMarker_not_mem
    {g : Grammar} {α β : List SymbolId}
    (hfree : ∀ p ∈ g.productions, endMarker ∉ p.rhs)
    (h : g.Derives α β)
    (hα : endMarker ∉ α) :
    endMarker ∉ β :=
  h.not_mem (fun p hp hmem => hfree p hp (List.mem_filter.1 hmem).1) hα

theorem not_loopsAfter_of_endMarker_free
    {g : Grammar}
    (hg : g.WellFormed)
    (hfree : ∀ p ∈ g.productions, endMarker ∉ p.rhs)
    (S : SymbolId) (ts : List SymbolId) :
    ¬ g.LoopsAfter S ts := by
  rintro ⟨_, A, _, k, _, others, hA, _, hloop⟩
  refine hloop.endMarker_not_mem hfree ?_ (by simp)
  intro hmem
  rw [← List.mem_singleton.1 hmem, hg.endMarker_terminal] at hA
  cases hA

end Grammar

namespace Parser

section

variable {σ ε : Type} {src : Source σ ε} {g : Grammar} {t : Table} {p q : Parser σ}
  {S : SymbolId} {ts word rest : List SymbolId} {e : Option ε}
  {entered : List (SymbolId × Nat)}

/-- With enough steps, the parser stops or the source fails. -/
def Halts (src : Source σ ε) (g : Grammar) (t : Table) (p : Parser σ) : Prop :=
  ∃ limit, ∀ events, (runFrom src g t limit events p).ending ≠ .unfinished

theorem halts_of_not_running
    (hrun : p.status ≠ .running) :
    Halts src g t p := by
  refine ⟨0, fun events => ?_⟩
  have hstopped : p.isRunning = false := by
    simpa [isRunning] using hrun
  simp [runFrom, hstopped]

theorem halts_of_step
    (h : ∀ events q, p.step src g t = (.ok events, q) → Halts src g t q) :
    Halts src g t p := by
  cases hrun : p.isRunning with
  | false =>
      refine halts_of_not_running fun hstatus => ?_
      rw [isRunning_iff.2 hstatus] at hrun
      cases hrun
  | true =>
      cases hstep : p.step src g t with
      | mk r q =>
          cases r with
          | error e =>
              refine ⟨1, fun events => ?_⟩
              simp [runFrom, hrun, hstep]
          | ok new =>
              obtain ⟨limit, hlimit⟩ := h new q hstep
              refine ⟨limit + 1, fun events => ?_⟩
              simpa [runFrom, hrun, hstep] using hlimit (new.reverse ++ events)

/-- A parser at work on a word that has been read and the rest of its tokens.  Each non-terminal that
was entered since the last token has derived the end markers matched since then and what is above the
stack beneath it now. -/
structure Tracked (src : Source σ ε) (g : Grammar) (S : SymbolId) (ts : List SymbolId)
    (e : Option ε) (word rest : List SymbolId) (entered : List (SymbolId × Nat))
    (p : Parser σ) : Prop where
  running : p.status = .running
  ahead : Ahead src e p rest
  reads : Reads ts word rest
  terminals : ∀ id ∈ word, g.isTerminal id = true
  derives : g.Derives [S] (word ++ form p.stack)
  entered_derives : ∀ A d, (A, d) ∈ entered →
    ∃ above below k, p.stack = above ++ below ∧ below.length = d ∧
      g.Derives [A] (List.replicate k endMarker ++ form above) ∧
      (k = 0 → (A, d) ∈ p.expanding) ∧ (k ≠ 0 → rest = [])
  nodup : (entered.map Prod.fst).Nodup
  nonterminals : ∀ x ∈ entered, x.1 ∈ g.symbols.nonterminals

theorem Tracked.peeking
    (h : Tracked src g S ts e word rest entered p)
    {a : SymbolId}
    (hpeeking : Peeking src p (.ok a) q) :
    a = rest.headD endMarker ∧ Tracked src g S ts e word rest entered q := by
  obtain ⟨hstatus, hstack, hexpanding⟩ := hpeeking.unchanged
  rcases hpeeking.ahead h.ahead with ⟨heq, hahead⟩ | ⟨_, herror, _⟩
  · cases heq
    exact ⟨rfl,
      { h with
        running := hstatus.trans h.running
        ahead := hahead
        derives := by
          rw [hstack]
          exact h.derives
        entered_derives := by
          rw [hstack, hexpanding]
          exact h.entered_derives }⟩
  · cases herror

/-- What a non-terminal beneath the top has derived begins with end markers and the top. -/
theorem Tracked.above_top
    (h : Tracked src g S ts e word rest entered p)
    {top : SymbolId} {below : List SymbolId}
    (hstack : p.stack = top :: below)
    {A : SymbolId} {d : Nat}
    (hentered : (A, d) ∈ beneath entered below.length) :
    ∃ above others k, below = above ++ others ∧ others.length = d ∧
      g.Derives [A] (List.replicate k endMarker ++ form (top :: above)) ∧
      (k = 0 → (A, d) ∈ p.openAt below.length) ∧ (k ≠ 0 → rest = []) := by
  obtain ⟨hmem, hd⟩ := mem_beneath.1 hentered
  obtain ⟨above, others, k, hsplit, hlength, hderives, hopen, hrest⟩ := h.entered_derives A d hmem
  rw [hstack] at hsplit
  cases above with
  | nil =>
      rw [List.nil_append] at hsplit
      rw [← hlength, ← hsplit, List.length_cons] at hd
      omega
  | cons id above =>
      obtain ⟨rfl, htail⟩ := List.cons_eq_cons.1 hsplit
      exact ⟨above, others, k, htail, hlength, hderives,
        fun hk => mem_openAt.2 ⟨hopen hk, hd⟩, hrest⟩

/-- A non-terminal that is not on the record of the parser was not entered, unless it derives end
markers in front of itself. -/
theorem Tracked.fresh
    (h : Tracked src g S ts e word rest entered p)
    (hno : e = none → ¬ g.LoopsAfter S ts)
    {top : SymbolId} {below : List SymbolId}
    (htop : top ≠ epsilon)
    (hterm : g.isTerminal top = false)
    (hlookahead : p.lookahead ≠ none)
    (hstack : p.stack = top :: below)
    (hopen : ∀ d, (top, d) ∉ p.openAt below.length)
    (d : Nat) :
    (top, d) ∉ beneath entered below.length := by
  intro hentered
  obtain ⟨above, others, k, _, _, hloop, hzero, hrest⟩ := h.above_top hstack hentered
  cases k with
  | zero =>
      exact hopen d (hzero rfl)
  | succ k =>
      -- an end marker was matched in between, and so no token is left and the form is a loop
      obtain rfl := hrest (Nat.succ_ne_zero k)
      have he : e = none := by
        cases h.ahead with
        | unknown _ hnone =>
            exact absurd hnone hlookahead
        | used _ _ he =>
            exact he
      obtain ⟨j, hword, _⟩ := h.reads
      rw [List.append_nil] at hword
      have hderives := h.derives
      rw [hword, hstack, form_cons htop] at hderives
      rw [form_cons htop] at hloop
      refine hno he ⟨fun id hid => h.terminals id ?_, top, j, k, _, _, hterm, hderives, hloop⟩
      rw [hword]
      exact List.mem_append_left _ hid

/-- The top is replaced by what it derives. -/
theorem Tracked.replace
    (h : Tracked src g S ts e word rest entered p)
    {top : SymbolId} {below new : List SymbolId}
    (hstack : p.stack = top :: below)
    (hnew : g.Derives (form [top]) (form new))
    (hrun : q.status = .running)
    (hahead : Ahead src e q rest)
    (hqstack : q.stack = new ++ below)
    (hopen : ∀ x ∈ p.openAt below.length, x ∈ q.expanding) :
    Tracked src g S ts e word rest (beneath entered below.length) q where
  running := hrun
  ahead := hahead
  reads := h.reads
  terminals := h.terminals
  derives := by
    have hderives := h.derives
    rw [hstack] at hderives
    rw [hqstack]
    exact hderives.replace_top hnew
  entered_derives := by
    intro A d hentered
    obtain ⟨above, others, k, rfl, hlength, hderives, hzero, hrest⟩ := h.above_top hstack hentered
    exact ⟨new ++ above, others, k, by simp [hqstack], hlength, hderives.replace_top hnew,
      fun hk => hopen _ (hzero hk), hrest⟩
  nodup := h.nodup.sublist ((List.filter_sublist).map Prod.fst)
  nonterminals := fun x hx => h.nonterminals x (mem_beneath.1 hx).1

/-- A non-terminal that was replaced may be counted as entered. -/
theorem Tracked.enter
    (h : Tracked src g S ts e word rest entered p)
    {A : SymbolId} {above below : List SymbolId}
    (hA : A ∈ g.symbols.nonterminals)
    (hfresh : ∀ d, (A, d) ∉ entered)
    (hstack : p.stack = above ++ below)
    (hderives : g.Derives [A] (form above))
    (hopen : (A, below.length) ∈ p.expanding) :
    Tracked src g S ts e word rest ((A, below.length) :: entered) p :=
  { h with
    entered_derives := by
      intro B d hentered
      rcases List.mem_cons.1 hentered with heq | hentered
      · cases heq
        exact ⟨above, below, 0, hstack, rfl, hderives, fun _ => hopen, fun h0 => absurd rfl h0⟩
      · exact h.entered_derives B d hentered
    nodup := by
      rw [List.map_cons, List.nodup_cons]
      refine ⟨fun hmem => ?_, h.nodup⟩
      obtain ⟨⟨B, d⟩, hentered, rfl⟩ := List.mem_map.1 hmem
      exact hfresh d hentered
    nonterminals := by
      intro x hx
      rcases List.mem_cons.1 hx with rfl | hx
      · exact hA
      · exact h.nonterminals x hx }

/-- A terminal that is matched moves from the stack to the word. -/
theorem Tracked.match_terminal
    {a : SymbolId} {below : List SymbolId}
    (h : Tracked src g S ts e word rest entered p)
    (heps : a ≠ epsilon)
    (hterm : g.isTerminal a = true)
    (hstack : p.stack = a :: below) :
    (∀ id ∈ word ++ [a], g.isTerminal id = true) ∧
      g.Derives [S] (word ++ [a] ++ form below) := by
  constructor
  · intro id hid
    rcases List.mem_append.1 hid with hid | hid
    · exact h.terminals id hid
    · rw [List.mem_singleton.1 hid]
      exact hterm
  · have hderives := h.derives
    rw [hstack, form_cons heps, List.append_cons] at hderives
    exact hderives

/-- At the match of a token, the count of what was entered starts afresh. -/
theorem Tracked.match_token
    {a : SymbolId} {below : List SymbolId}
    (h : Tracked src g S ts e word (a :: rest) entered p)
    (heps : a ≠ epsilon)
    (hterm : g.isTerminal a = true)
    (hstack : p.stack = a :: below)
    (hrun : q.status = .running)
    (hahead : Ahead src e q rest)
    (hqstack : q.stack = below) :
    Tracked src g S ts e (word ++ [a]) rest [] q where
  running := hrun
  ahead := hahead
  reads := h.reads.next
  terminals := (h.match_terminal heps hterm hstack).1
  derives := by
    rw [hqstack]
    exact (h.match_terminal heps hterm hstack).2
  entered_derives := by
    intro A d hentered
    cases hentered
  nodup := List.nodup_nil
  nonterminals := by
    intro x hx
    cases hx

/-- At the match of an end marker that is not there, all that was entered has derived one more. -/
theorem Tracked.match_marker
    {below : List SymbolId}
    (hg : g.WellFormed)
    (h : Tracked src g S ts e word [] entered p)
    (hstack : p.stack = endMarker :: below)
    (hrun : q.status = .running)
    (hahead : Ahead src e q [])
    (hqstack : q.stack = below) :
    Tracked src g S ts e (word ++ [endMarker]) [] (beneath entered below.length) q where
  running := hrun
  ahead := hahead
  reads := h.reads.next
  terminals := (h.match_terminal (by decide) hg.endMarker_terminal hstack).1
  derives := by
    rw [hqstack]
    exact (h.match_terminal (by decide) hg.endMarker_terminal hstack).2
  entered_derives := by
    intro A d hentered
    obtain ⟨above, others, k, rfl, hlength, hderives, _⟩ := h.above_top hstack hentered
    refine ⟨above, others, k + 1, hqstack, hlength, ?_,
      fun hk => absurd hk (Nat.succ_ne_zero k), fun _ => rfl⟩
    rw [form_cons (by decide), List.append_cons] at hderives
    rw [List.replicate_succ']
    exact hderives
  nodup := h.nodup.sublist ((List.filter_sublist).map Prod.fst)
  nonterminals := fun x hx => h.nonterminals x (mem_beneath.1 hx).1

/-- A step takes a token or makes the load smaller. -/
theorem Tracked.reduction
    (hg : g.WellFormed)
    (ht : t.Fits g)
    (hno : e = none → ¬ g.LoopsAfter S ts)
    (h : Tracked src g S ts e word rest entered p)
    {top : SymbolId} {below : List SymbolId} {events : List Event}
    (hlookahead : p.lookahead = some (rest.headD endMarker))
    (hstack : p.stack = top :: below)
    (hreduction : Reduction g t (rest.headD endMarker) top below p events q)
    (hrun : q.status = .running) :
    ∃ word' rest' entered', Tracked src g S ts e word' rest' entered' q ∧
      (rest'.length < rest.length ∨
        (rest' = rest ∧
          load g.longest g.symbols.nonterminals.length entered' q.stack <
            load g.longest g.symbols.nonterminals.length entered p.stack)) := by
  have hknown : p.lookahead ≠ none := by
    simp [hlookahead]
  rw [hstack]
  cases hreduction with
  | dropped htop =>
      subst htop
      have hnew : g.Derives (form [epsilon]) (form []) := by
        rw [form_epsilon_cons]
        exact Grammar.Derives.refl (form [])
      have hq := h.replace hstack hnew hrun (h.ahead.kept rfl rfl rfl) rfl fun _ hx => hx
      exact ⟨_, _, _, hq, Or.inr ⟨rfl, load_pop _ _⟩⟩
  | matched htop hterm ha =>
      cases rest with
      | nil =>
          obtain rfl : top = endMarker := ha
          have hq := h.match_marker hg hstack hrun (h.ahead.taken hknown rfl rfl rfl) rfl
          exact ⟨_, _, _, hq, Or.inr ⟨rfl, load_pop _ _⟩⟩
      | cons a rest =>
          obtain rfl : top = a := ha
          have hq := h.match_token htop hterm hstack hrun (h.ahead.taken hknown rfl rfl rfl) rfl
          exact ⟨_, _, _, hq, Or.inl (Nat.lt_succ_self _)⟩
  | mismatched | cycled | stuck =>
      cases hrun
  | @expanded htop hterm hopen ix hcell =>
      obtain ⟨production, hix, rfl⟩ := ht _ _ _ hcell
      have hproduction := List.mem_of_getElem? hix
      have hlhs : production.lhs ∈ g.symbols.nonterminals :=
        SymbolTable.mem_nonterminals.2 ⟨hg.lhs_lt _ hproduction, hterm⟩
      have hrhs : (g.productions[ix]?.map Production.rhs).getD [] = production.rhs := by
        rw [hix]
        rfl
      have hderives := hg.derives_rhs hproduction
      -- not on the record of the parser, hence not entered at all, hence with room to be entered
      have hfresh := h.fresh hno htop hterm hknown hstack hopen
      have hq := h.replace hstack hderives hrun (h.ahead.kept rfl rfl rfl) (by rw [hrhs])
        fun _ => List.mem_cons_of_mem _
      rw [form_cons htop, form_nil] at hderives
      refine ⟨_, _, _, hq.enter hlhs hfresh (by rw [hrhs]) hderives List.mem_cons_self,
        Or.inr ⟨rfl, ?_⟩⟩
      exact load_push _ (g.length_getD_le_longest ix)
        (length_lt_of_fresh hq.nodup hq.nonterminals hlhs hfresh)
  | vanished htop hterm hopen hcell hempty =>
      obtain ⟨ix, production, _, hix, rfl, hrhs⟩ := Grammar.findIdx?_empty hempty
      have hderives := hg.derives_rhs (List.mem_of_getElem? hix)
      rw [hrhs, form_epsilon_cons] at hderives
      have hq := h.replace hstack hderives hrun (h.ahead.kept rfl rfl rfl) rfl
        fun _ => List.mem_cons_of_mem _
      exact ⟨_, _, _, hq, Or.inr ⟨rfl, load_pop _ _⟩⟩

theorem Tracked.step
    (hg : g.WellFormed)
    (ht : t.Fits g)
    (hno : e = none → ¬ g.LoopsAfter S ts)
    (h : Tracked src g S ts e word rest entered p)
    {events : List Event}
    (hstep : p.step src g t = (.ok events, q))
    (hrun : q.status = .running) :
    ∃ word' rest' entered', Tracked src g S ts e word' rest' entered' q ∧
      (rest'.length < rest.length ∨
        (rest' = rest ∧
          load g.longest g.symbols.nonterminals.length entered' q.stack <
            load g.longest g.symbols.nonterminals.length entered p.stack)) := by
  have hspec := step_spec src g t p
  rw [hstep] at hspec
  cases hspec with
  | idle hstopped =>
      exact absurd h.running hstopped
  | finished _ _ _ hclosing =>
      cases hclosing <;> cases hrun
  | @reduced _ _ p' hpeeking _ _ hstack _ _ hreduction =>
      obtain ⟨rfl, hp'⟩ := h.peeking hpeeking
      obtain ⟨_, hstack', _⟩ := hpeeking.unchanged
      rw [← hstack'] at hstack ⊢
      exact hp'.reduction hg ht hno hpeeking.lookahead hstack hreduction hrun

/-- A run ends, unless its tokens are followed by end markers without end. -/
theorem Tracked.halts
    (hg : g.WellFormed)
    (ht : t.Fits g)
    (hno : e = none → ¬ g.LoopsAfter S ts)
    {word rest : List SymbolId} {entered : List (SymbolId × Nat)} {p : Parser σ}
    (h : Tracked src g S ts e word rest entered p) :
    Halts src g t p := by
  refine halts_of_step fun events q hstep => ?_
  by_cases hrun : q.status = .running
  · obtain ⟨word', rest', entered', hq, hless⟩ := h.step hg ht hno hstep hrun
    exact hq.halts hg ht hno
  · exact halts_of_not_running hrun
termination_by (rest.length, load g.longest g.symbols.nonterminals.length entered p.stack)
decreasing_by
  rcases hless with hrest | ⟨rfl, hload⟩
  · exact Prod.Lex.left _ _ hrest
  · exact Prod.Lex.right _ hload

theorem tracked_start
    (hg : g.WellFormed)
    (hstart : g.start = .ok S)
    {s : σ}
    (hsource : src.Supplies s ts e)
    (limit : Nat) :
    Tracked src g S ts e [] ts [] (Parser.start g s limit) where
  running := (start_eq hstart s limit).1
  ahead := ahead_start hsource limit
  reads := reads_nil ts
  terminals := by
    intro id hid
    cases hid
  derives := by
    rw [(start_eq hstart s limit).2, hg.form_singleton (Grammar.start_eq_ok hstart).2]
    exact Grammar.Derives.refl [S]
  entered_derives := by
    intro A d hentered
    cases hentered
  nodup := List.nodup_nil
  nonterminals := by
    intro x hx
    cases hx

/-- Where no production mentions the end marker, every run over a finite source ends, with any table
that fits. -/
theorem run_ends_of_endMarker_free
    (hg : g.Reachable)
    (ht : t.Fits g)
    (hfree : ∀ p ∈ g.productions, endMarker ∉ p.rhs)
    {s : σ}
    (hsource : src.Supplies s ts e)
    (historyLimit : Nat) :
    ∃ limit, ((Parser.start g s historyLimit).run src g t limit).ending ≠ .unfinished := by
  have hhalts : Halts src g t (Parser.start g s historyLimit) := by
    cases hstart : g.start with
    | error fault =>
        refine halts_of_not_running ?_
        simp [Parser.start, hstart]
    | ok S =>
        have htracked := tracked_start hg.wellFormed hstart hsource historyLimit
        exact htracked.halts hg.wellFormed ht fun _ =>
          Grammar.not_loopsAfter_of_endMarker_free hg.wellFormed hfree S ts
  obtain ⟨limit, hlimit⟩ := hhalts
  exact ⟨limit, hlimit []⟩

end

end Parser
end PredictiveParsing

import PredictiveParsing.Proofs.Parser.Step
import PredictiveParsing.Proofs.Prediction
import Mathlib.Tactic

/-!
# What the record of expansions means

A parser keeps the non-terminals that it is expanding, each with the height of the stack beneath it.
`Parser.Guarded` is the meaning of that record: the non-terminal stood on the stack beneath it, the
token that comes next was the same then, and quiet steps have turned the non-terminal into what is
above that stack now.

With any table, a parser that rejects because of the record has met a non-terminal again above itself
(`Parser.Reaches.guarded`).  Such a non-terminal would go on for ever on the same token, and with a
table that was built none does (`Parser.Guarded.fresh`).  So the record is never the reason to reject
(`Parser.built_table_never_cycles`).
-/

namespace PredictiveParsing
namespace Parser

section

variable {σ ε : Type} {src : Source σ ε} {g : Grammar} {t : Table} {p q : Parser σ}

/-- Each non-terminal on record has been turned into what is above the stack beneath it. -/
def Guarded (t : Table) (g : Grammar) (p : Parser σ) : Prop :=
  ∀ A d, (A, d) ∈ p.openAt p.stack.length →
    ∃ a above below, p.lookahead = some a ∧ p.stack = above ++ below ∧ below.length = d ∧
      Relation.TransGen (t.Quiet g a) [A] above

theorem guarded_start
    (t : Table) (g : Grammar) (s : σ) (limit : Nat) :
    Guarded t g (Parser.start g s limit) := by
  intro A d hopen
  have hnone : (Parser.start g s limit).expanding = [] := rfl
  rw [mem_openAt, hnone] at hopen
  cases hopen.1

theorem Guarded.peeking
    (hp : Guarded t g p)
    {r : Except ε SymbolId}
    (hpeeking : Peeking src p r q) :
    Guarded t g q := by
  have hnone : p.lookahead = none → ∀ A d, (A, d) ∉ p.openAt p.stack.length := by
    intro hlookahead A d hopen
    obtain ⟨a, _, _, hknown, _⟩ := hp A d hopen
    rw [hlookahead] at hknown
    cases hknown
  cases hpeeking with
  | known =>
      exact hp
  | again hlookahead | pulled hlookahead | ended hlookahead | failed hlookahead =>
      exact fun A d hopen => absurd hopen (hnone hlookahead A d)

/-- What is on record beneath the top of the stack has turned into the top and more. -/
theorem Guarded.above_top
    (hp : Guarded t g p)
    {a top : SymbolId} {rest : List SymbolId}
    (hlookahead : p.lookahead = some a)
    (hstack : p.stack = top :: rest)
    {A : SymbolId} {d : Nat}
    (hopen : (A, d) ∈ p.openAt rest.length) :
    ∃ above below, rest = above ++ below ∧ below.length = d ∧
      Relation.TransGen (t.Quiet g a) [A] (top :: above) := by
  obtain ⟨hmem, hd⟩ := mem_openAt.1 hopen
  have hopen' : (A, d) ∈ p.openAt p.stack.length := by
    refine mem_openAt.2 ⟨hmem, ?_⟩
    rw [hstack, List.length_cons]
    omega
  obtain ⟨a', above, below, ha', hsplit, hlength, hloop⟩ := hp A d hopen'
  obtain rfl : a = a' := Option.some.inj (hlookahead.symm.trans ha')
  rw [hstack] at hsplit
  cases above with
  | nil =>
      -- then the whole stack, its top included, would be beneath
      rw [← hlength, ← (show top :: rest = below from hsplit), List.length_cons] at hd
      omega
  | cons id above =>
      obtain ⟨rfl, htail⟩ := List.cons_eq_cons.1 hsplit
      exact ⟨above, below, htail, hlength, hloop⟩

/-- With a table that was built, the top is not being expanded already. -/
theorem Guarded.fresh
    (hg : g.WellFormed)
    (ht : Table.ofGrammar g = .ok t)
    (hp : Guarded t g p)
    {a top : SymbolId} {rest : List SymbolId}
    (hlookahead : p.lookahead = some a)
    (hstack : p.stack = top :: rest)
    (d : Nat) :
    (top, d) ∉ p.openAt rest.length := by
  intro hopen
  obtain ⟨above, _, _, _, hloop⟩ := hp.above_top hlookahead hstack hopen
  exact Table.not_loop hg ht hloop

/-- A quiet step keeps the record in order, when it adds no more to it than the top. -/
theorem Guarded.quiet
    (hp : Guarded t g p)
    {a top : SymbolId} {rest new : List SymbolId}
    (hlookahead : p.lookahead = some a)
    (hstack : p.stack = top :: rest)
    (hquiet : t.Quiet g a [top] new)
    (hq : q.lookahead = p.lookahead)
    (hqstack : q.stack = new ++ rest)
    (hexpanding : ∀ e ∈ q.expanding, e = (top, rest.length) ∨ e ∈ p.openAt rest.length) :
    Guarded t g q := by
  intro A d hopen
  rcases hexpanding _ (mem_openAt.1 hopen).1 with heq | hopen
  · cases heq
    exact ⟨a, new, rest, hq.trans hlookahead, hqstack, rfl, .single hquiet⟩
  · obtain ⟨above, below, rfl, hlength, hloop⟩ := hp.above_top hlookahead hstack hopen
    refine ⟨a, new ++ above, below, hq.trans hlookahead, by simp [hqstack], hlength, ?_⟩
    exact hloop.tail (hquiet.append above)

theorem Guarded.reduction
    (hp : Guarded t g p)
    {a top : SymbolId} {rest : List SymbolId} {events : List Event}
    (hlookahead : p.lookahead = some a)
    (hstack : p.stack = top :: rest)
    (hreduction : Reduction g t a top rest p events q)
    (hrun : q.status = .running) :
    Guarded t g q := by
  cases hreduction with
  | dropped htop =>
      subst htop
      exact hp.quiet hlookahead hstack (.dropped []) rfl rfl fun _ hmem => Or.inr hmem
  | matched =>
      intro A d hopen
      cases (mem_openAt.1 hopen).1
  | mismatched | cycled | stuck =>
      cases hrun
  | expanded htop hterm hfresh hcell =>
      refine hp.quiet hlookahead hstack ?_ rfl rfl fun _ => List.mem_cons.1
      simpa using Table.Quiet.expanded htop hterm hcell []
  | vanished htop hterm hfresh hcell hempty =>
      have hquiet := Table.Quiet.vanished htop hterm hcell hempty []
      exact hp.quiet hlookahead hstack hquiet rfl rfl fun _ => List.mem_cons.1

/-- Closing looks at neither the stack nor the record. -/
theorem Guarded.closing
    (hp : Guarded t g p)
    {a : SymbolId} {r : Except ε (List Event)}
    (hclosing : Closing src a p r q) :
    Guarded t g q := by
  cases hclosing <;> exact hp

/-- A step keeps the record in order.  It rejects because of the record only when the top of the stack
has come back above itself. -/
theorem Transition.guarded
    (hp : p.status = .running → Guarded t g p)
    {r : Except ε (List Event)}
    (htransition : Transition src g t p r q) :
    (q.status = .running → Guarded t g q) ∧
      ∀ A, q.status = .rejected (.cycle A) →
        p.status = .rejected (.cycle A) ∨
          ∃ a above, Relation.TransGen (t.Quiet g a) [A] (A :: above) := by
  cases htransition with
  | idle =>
      exact ⟨hp, fun A hq => Or.inl hq⟩
  | unread hrun hpeeking =>
      refine ⟨fun _ => (hp hrun).peeking hpeeking, fun A hq => Or.inl ?_⟩
      rwa [← hpeeking.unchanged.1]
  | finished hrun hpeeking hstack hclosing =>
      have hstatus := hpeeking.unchanged.1.trans hrun
      refine ⟨fun _ => ((hp hrun).peeking hpeeking).closing hclosing, fun A hq => ?_⟩
      cases hclosing <;> simp [hstatus] at hq
  | reduced hrun hpeeking hstack hreduction =>
      obtain ⟨hstatus, hsame, _⟩ := hpeeking.unchanged
      have hguarded := (hp hrun).peeking hpeeking
      have hlookahead := hpeeking.lookahead
      have hstack' := hsame.trans hstack
      refine ⟨hguarded.reduction hlookahead hstack' hreduction, fun A hq => ?_⟩
      cases hreduction with
      | cycled _ _ hopen =>
          cases hq
          obtain ⟨above, _, _, _, hloop⟩ := hguarded.above_top hlookahead hstack' hopen
          exact Or.inr ⟨_, above, hloop⟩
      | dropped | matched | mismatched | expanded | vanished | stuck =>
          simp [consume, hstatus, hrun] at hq

/-- Throughout a run the record is in order, and a run that rejects because of it has found a
non-terminal that comes back above itself. -/
theorem Reaches.guarded
    (hp : p.status = .running → Guarded t g p)
    (hcycle : ∀ A, p.status ≠ .rejected (.cycle A))
    {events : List Event}
    (h : Reaches src g t p events q) :
    (q.status = .running → Guarded t g q) ∧
      ∀ A, q.status = .rejected (.cycle A) →
        ∃ a above, Relation.TransGen (t.Quiet g a) [A] (A :: above) := by
  induction h with
  | refl =>
      exact ⟨hp, fun A hq => absurd hq (hcycle A)⟩
  | @step _ q _ ih =>
      obtain ⟨hguarded, hloop⟩ := (step_spec src g t q).guarded ih.1
      refine ⟨hguarded, fun A hq => ?_⟩
      rcases hloop A hq with hq | hloop
      · exact ih.2 A hq
      · exact hloop

/-- A running parser has its record in order, and no parser has rejected because of the record. -/
def Unlooped (t : Table) (g : Grammar) (p : Parser σ) : Prop :=
  (p.status = .running → Guarded t g p) ∧ ∀ A, p.status ≠ .rejected (.cycle A)

theorem unlooped_start
    (t : Table) (g : Grammar) (s : σ) (limit : Nat) :
    Unlooped t g (Parser.start g s limit) := by
  refine ⟨fun _ => guarded_start t g s limit, fun A => ?_⟩
  cases hstart : g.start with
  | error fault =>
      simp [Parser.start, hstart]
  | ok S =>
      simp [Parser.start, hstart]

theorem Unlooped.reaches
    (hg : g.WellFormed)
    (ht : Table.ofGrammar g = .ok t)
    (hp : Unlooped t g p)
    {events : List Event}
    (h : Reaches src g t p events q) :
    Unlooped t g q := by
  obtain ⟨hguarded, hloop⟩ := h.guarded hp.1 hp.2
  refine ⟨hguarded, fun A hq => ?_⟩
  obtain ⟨_, _, hloop⟩ := hloop A hq
  exact Table.not_loop hg ht hloop

/-- **A built table never trips the guard.**  No run with a table that was built, whatever the source
gives and however often it fails, rejects because a non-terminal derives itself without a token. -/
theorem built_table_never_cycles
    (hg : g.Reachable)
    (ht : Table.ofGrammar g = .ok t)
    (src : Source σ ε) (s : σ) (limit : Nat)
    {events : List Event}
    (h : Reaches src g t (Parser.start g s limit) events q)
    (A : SymbolId) :
    q.status ≠ .rejected (.cycle A) :=
  ((unlooped_start t g s limit).reaches hg.wellFormed ht h).2 A

end

end Parser

/-- A grammar whose `X`, 5, vanishes three times before `b`, 2, is matched, and whose `A` and `B`, 6
and 7, derive each other but are not reached from the start symbol. -/
def Grammar.vanishing : Grammar where
  symbols :=
    { symbols :=
        [SymbolTable.endMarkerSymbol "$", ⟨epsilonName, .terminal epsilonName⟩,
          ⟨"b", .terminal "b"⟩, ⟨"S", .nonterminal⟩, ⟨"Y", .nonterminal⟩, ⟨"X", .nonterminal⟩,
          ⟨"A", .nonterminal⟩, ⟨"B", .nonterminal⟩] }
  productions := [⟨3, [4, 2]⟩, ⟨4, [5, 5, 5]⟩, ⟨5, [1]⟩, ⟨6, [7]⟩, ⟨7, [6]⟩, ⟨7, [1]⟩]
  startName := some "S"

/-- The table of `Grammar.vanishing`. -/
def Table.vanishing : Table where
  rows := [(3, [(2, 0)]), (4, [(2, 1)]), (5, [(2, 2)]), (6, []), (7, [])]

namespace Parser

/-- The left recursion of `A` raises no conflict, and no run over `b` trips the guard. -/
theorem built_table_never_cycles_vanishing :
    Relation.TransGen Grammar.vanishing.Produces [6] [6] ∧
      ∀ A, ((Parser.start Grammar.vanishing [.ok 2] defaultHistoryLimit).run
        (Source.ofList Unit) Grammar.vanishing Table.vanishing 20).parser.status ≠
          .rejected (.cycle A) := by
  have hload : Grammar.ofText
      ("terminal b b;\nstart with S;\n;\n" ++
        "S -> Yb;\nY -> XXX;\nX -> EPSILON;\nA -> B;\nB -> A;\nB -> EPSILON;\n;\n") =
        .ok Grammar.vanishing := by
    cbv
  have ht : Table.ofGrammar Grammar.vanishing = .ok Table.vanishing := by
    decide +kernel
  constructor
  · have hA : Grammar.vanishing.Produces [6] [7] :=
      .expand (p := ⟨6, [7]⟩) (by decide) [] []
    have hB : Grammar.vanishing.Produces [7] [6] :=
      .expand (p := ⟨7, [6]⟩) (by decide) [] []
    exact .tail (.single hA) hB
  · exact built_table_never_cycles (Grammar.reachable_of_ofText hload) ht (Source.ofList Unit)
      [.ok 2] defaultHistoryLimit (reaches_run _ _ _ 20 _)

end Parser
end PredictiveParsing

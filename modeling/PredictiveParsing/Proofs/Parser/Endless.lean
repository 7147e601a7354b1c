import PredictiveParsing.Proofs.Parser.Termination
import Mathlib.Tactic

/-!
# Runs without end

When a non-terminal derives end markers in front of itself and comes to the top after the last token,
a parser with a built table follows it for ever.  Each round matches end markers that are not there,
and each match makes the parser forget which non-terminals it is expanding.

So a run ends exactly when this does not happen (`Parser.run_ends_iff`).
-/

namespace PredictiveParsing
namespace Parser

section

variable {σ ε : Type} {src : Source σ ε} {g : Grammar} {t : Table} {p q : Parser σ}
  {S A : SymbolId} {ts : List SymbolId}

/-- However many steps are allowed, they are not enough. -/
def Endless (src : Source σ ε) (g : Grammar) (t : Table) (p : Parser σ) : Prop :=
  ∀ limit events, (runFrom src g t limit events p).ending = .unfinished

/-- A run through another parser needs the steps to there and the steps from there. -/
theorem Advances.unfinished
    {n limit : Nat}
    (h : Advances src g t n p q)
    (hq : ∀ later events, later + n = limit →
      (runFrom src g t later events q).ending = .unfinished)
    (events : List Event) :
    (runFrom src g t limit events p).ending = .unfinished := by
  induction h generalizing limit events with
  | refl =>
      exact hq limit events rfl
  | @step n p p' q new hrun hstep _ ih =>
      have hrunning := isRunning_iff.2 hrun
      cases limit with
      | zero =>
          simp [runFrom, hrunning]
      | succ limit =>
          simp only [runFrom, hrunning, hstep, Bool.not_true, Bool.false_eq_true, if_false]
          refine ih (fun later events hlater => hq later events ?_) _
          omega

/-- Parsers that always come to one of their kind again never end. -/
theorem endless_of_rounds
    {P : Parser σ → Prop}
    (hround : ∀ p, P p → ∃ n q, Advances src g t n p q ∧ 0 < n ∧ P q)
    (hp : P p) :
    Endless src g t p := by
  intro limit
  induction limit using Nat.strong_induction_on generalizing p with
  | _ limit ih =>
      obtain ⟨n, q, hadvances, hn, hq⟩ := hround p hp
      refine hadvances.unfinished fun later events hlater => ?_
      exact ih later (by omega) hq events

theorem headD_drop_replicate
    (n m : Nat) :
    ((List.replicate m endMarker).drop n).headD endMarker = endMarker := by
  rw [List.drop_replicate]
  cases m - n <;> rfl

/-- A non-terminal that spells end markers exposes one, whatever is beneath it. -/
theorem exposes_markers
    {k : Nat} {others : List SymbolId}
    (hspells : g.Spells [A] (List.replicate (k + 1) endMarker) others)
    (below : List SymbolId) :
    g.Exposes endMarker (A :: below) := by
  have hexposes :
      g.Exposes ((List.replicate (k + 1) endMarker).headD endMarker) ([A] ++ below) :=
    (hspells.append below).exposes (by simp)
  exact hexposes

/-- A parser that has nothing but end markers before it, and on the stack a non-terminal of a form of
the grammar. -/
def Looping (src : Source σ ε) (g : Grammar) (t : Table) (S A : SymbolId) (p : Parser σ) : Prop :=
  ∃ m before below, Ready src g t p (List.replicate m endMarker) ∧ p.stack = A :: below ∧
    g.Derives [S] (before ++ form (A :: below))

/-- A non-terminal that spells end markers in front of itself comes back to the top. -/
theorem Looping.round
    (hg : g.WellFormed)
    (ht : Table.ofGrammar g = .ok t)
    (hstart : g.start = .ok S)
    {k : Nat} {others : List SymbolId}
    (hspells : g.Spells [A] (List.replicate (k + 1) endMarker) (A :: others))
    (hp : Looping src g t S A p) :
    ∃ n q, Advances src g t n p q ∧ 0 < n ∧ Looping src g t S A q := by
  obtain ⟨m, before, below, hready, hstack, hform⟩ := hp
  have hlong := hspells.append below
  have hinput :
      ∃ j, List.replicate (k + 1) endMarker <+:
        List.replicate m endMarker ++ List.replicate j endMarker := by
    refine ⟨k + 1, List.replicate m endMarker, ?_⟩
    rw [List.replicate_append_replicate, List.replicate_append_replicate, Nat.add_comm]
  have hrest :
      g.Exposes
        (((List.replicate m endMarker).drop (List.replicate (k + 1) endMarker).length).headD
          endMarker) (A :: others ++ below) := by
    rw [headD_drop_replicate]
    exact exposes_markers hspells _
  obtain ⟨n, q, hadvances, hn, hq, hqstack⟩ :=
    advances_of_spells hg ht hstart hlong hform hready hstack hinput hrest
  rw [List.length_replicate] at hn
  rw [List.drop_replicate] at hq
  have hderives := hform.trans ((hlong.derives hg).append_left before)
  rw [← List.append_assoc] at hderives
  exact ⟨n, q, hadvances, by omega, _, _, others ++ below, hq, hqstack, hderives⟩

/-- After its tokens and perhaps end markers, a parser comes to the non-terminal that loops. -/
theorem exists_looping
    (hg : g.WellFormed)
    (ht : Table.ofGrammar g = .ok t)
    (hstart : g.start = .ok S)
    {s : σ}
    (hsource : src.Supplies s ts none)
    {j : Nat} {below : List SymbolId}
    (hspells : g.Spells [S] (ts ++ List.replicate j endMarker) (A :: below))
    (hexposes : g.Exposes endMarker (A :: below))
    (historyLimit : Nat) :
    ∃ n q, Advances src g t n (Parser.start g s historyLimit) q ∧ Looping src g t S A q := by
  have hnone : ts.drop (ts ++ List.replicate j endMarker).length = [] := by
    rw [List.drop_eq_nil_iff, List.length_append]
    omega
  have hrest :
      g.Exposes ((ts.drop (ts ++ List.replicate j endMarker).length).headD endMarker)
        (A :: below) := by
    rw [hnone]
    exact hexposes
  have hform : g.Derives [S] ([] ++ form [S]) := by
    rw [List.nil_append, hg.form_singleton (Grammar.start_eq_ok hstart).2]
    exact Grammar.Derives.refl [S]
  obtain ⟨n, q, hadvances, _, hq, hqstack⟩ :=
    advances_of_spells hg ht hstart hspells hform (ready_start hstart hsource historyLimit)
      (start_eq hstart s historyLimit).2 ⟨j, List.prefix_rfl⟩ hrest
  rw [hnone] at hq
  refine ⟨n, q, hadvances, 0, ts ++ List.replicate j endMarker, below, hq, hqstack, ?_⟩
  exact hform.trans (hspells.derives hg)

/-- A grammar that derives the tokens and then a loop of end markers keeps the parser at work. -/
theorem endless_of_loopsAfter
    (hg : g.WellFormed)
    (ht : Table.ofGrammar g = .ok t)
    (hstart : g.start = .ok S)
    {s : σ}
    (hsource : src.Supplies s ts none)
    (hloop : g.LoopsAfter S ts)
    (historyLimit : Nat) :
    Endless src g t (Parser.start g s historyLimit) := by
  obtain ⟨hterminals, A, j, k, after, others, hA, hform, hloop⟩ := hloop
  have hmarkers : ∀ n, ∀ id ∈ List.replicate n endMarker, g.isTerminal id = true := by
    intro n id hid
    rw [List.eq_of_mem_replicate hid]
    exact hg.endMarker_terminal
  have hword : ∀ id ∈ ts ++ List.replicate j endMarker, g.isTerminal id = true := by
    intro id hid
    rcases List.mem_append.1 hid with hid | hid
    · exact hterminals id hid
    · exact hmarkers j id hid
  rw [← hg.form_singleton (Grammar.start_eq_ok hstart).2] at hform
  rw [← hg.form_singleton hA] at hloop
  obtain ⟨stack, hspells, hstack⟩ := Grammar.spells_of_derives hform hword
  obtain ⟨stack', hround, hstack'⟩ := Grammar.spells_of_derives hloop (hmarkers (k + 1))
  obtain ⟨below, rfl⟩ := List.head?_eq_some_iff.1 hstack
  obtain ⟨others, rfl⟩ := List.head?_eq_some_iff.1 hstack'
  obtain ⟨n, q, hadvances, hlooping⟩ :=
    exists_looping hg ht hstart hsource hspells (exposes_markers hround below) historyLimit
  have hendless := endless_of_rounds (fun p => Looping.round hg ht hstart hround) hlooping
  intro limit events
  exact hadvances.unfinished (fun later events _ => hendless later events) events

/-- **When a run ends.**  With a table that was built, a run over a source that supplies finitely many
tokens ends, unless the source ends without an error and a non-terminal that derives end markers in
front of itself comes to the top after the last token.  Lists of names and texts supply finitely many
tokens. -/
theorem run_ends_iff
    (hg : g.Reachable)
    (ht : Table.ofGrammar g = .ok t) :
    (∀ {σ ε : Type} (src : Source σ ε) (s : σ) (ts : List SymbolId) (e : Option ε)
        (historyLimit : Nat), src.Supplies s ts e →
      ((∃ limit, ((Parser.start g s historyLimit).run src g t limit).ending ≠ .unfinished) ↔
        ¬ (e = none ∧ ∃ S, g.start = .ok S ∧ g.LoopsAfter S ts))) ∧
    (∀ names, ∃ ts e, (Source.ofNames g.symbols).Supplies names ts e) ∧
    (∀ lexer cursor, ∃ ts e, (Source.ofLexer lexer).Supplies cursor ts e) := by
  have hwf := hg.wellFormed
  obtain ⟨S, hstart⟩ := Table.exists_start hwf ht
  refine ⟨fun src s ts e historyLimit hsource => ?_,
    Source.exists_supplies_ofNames g.symbols, Source.exists_supplies_ofLexer⟩
  constructor
  · rintro ⟨limit, hends⟩ ⟨rfl, S', hstart', hloop⟩
    exact hends (endless_of_loopsAfter hwf ht hstart' hsource hloop historyLimit limit [])
  · intro hno
    have htracked := tracked_start hwf hstart hsource historyLimit
    obtain ⟨limit, hlimit⟩ := htracked.halts hwf (Table.fits_of_ofGrammar ht)
      fun he hloop => hno ⟨he, S, hstart, hloop⟩
    exact ⟨limit, hlimit []⟩

/-- The run over `id PLUS id` ends, and so no loop of end markers comes after it. -/
theorem run_ends_iff_sums :
    ¬ Grammar.sums.LoopsAfter 4 [3, 2, 3] := by
  intro hloop
  obtain ⟨hruns, _⟩ := run_ends_iff Grammar.reachable_sums Table.ofGrammar_sums
  have hsource : (Source.ofList Unit).Supplies [.ok 3, .ok 2, .ok 3] [3, 2, 3] none :=
    Source.supplies_ofList [3, 2, 3]
  have hends := (hruns (Source.ofList Unit) _ _ _ defaultHistoryLimit hsource).1
    ⟨20, by decide +kernel⟩
  exact hends ⟨rfl, 4, by decide +kernel, hloop⟩

end

end Parser

/-- A grammar with the end marker in front of its start symbol: `S -> $ S`. -/
def Grammar.markers : Grammar where
  symbols :=
    { symbols :=
        [SymbolTable.endMarkerSymbol "$", ⟨epsilonName, .terminal epsilonName⟩,
          ⟨"S", .nonterminal⟩] }
  productions := [⟨2, [0, 2]⟩]
  startName := some "S"

namespace Parser

/-- It has a table, but no number of steps is enough for the empty input. -/
theorem endless_markers :
    Grammar.markers.Reachable ∧
      Table.ofGrammar Grammar.markers = .ok { rows := [(2, [(0, 0)])] } ∧
      ∀ limit, ((Parser.start Grammar.markers [] defaultHistoryLimit).run
        (Source.ofNames Grammar.markers.symbols) Grammar.markers
        { rows := [(2, [(0, 0)])] } limit).ending = .unfinished := by
  have hload : Grammar.ofText "start with S;\n;\nS -> $S;\n;\n" = .ok Grammar.markers := by
    cbv
  have hg := Grammar.reachable_of_ofText hload
  have ht : Table.ofGrammar Grammar.markers = .ok { rows := [(2, [(0, 0)])] } := by
    decide +kernel
  have hsource : (Source.ofNames Grammar.markers.symbols).Supplies [] [] none :=
    Source.supplies_ofNames rfl
  have hround :
      Grammar.markers.Derives [2] (List.replicate (0 + 1) endMarker ++ 2 :: []) :=
    hg.wellFormed.derives_rhs (p := ⟨2, [0, 2]⟩) (by decide)
  have hloop : Grammar.markers.LoopsAfter 2 [] :=
    ⟨by simp, 2, 0, 0, [], [], by decide, Grammar.Derives.refl [2], hround⟩
  have hendless := endless_of_loopsAfter hg.wellFormed ht (by decide +kernel) hsource hloop
    defaultHistoryLimit
  exact ⟨hg, ht, fun limit => hendless limit []⟩

end Parser
end PredictiveParsing

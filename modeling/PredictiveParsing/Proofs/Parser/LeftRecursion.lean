import PredictiveParsing.Proofs.Parser.Guard
import PredictiveParsing.Proofs.Parser.Leftmost
import Mathlib.Tactic

/-!
# Left recursion

A non-terminal is left-recursive when it derives, in one or more steps, a form that begins with
itself.  The parser meets left recursion as a loop of quiet steps: the non-terminal comes to the top
again above itself while the next token stays the same.

Such a loop is a left-recursive derivation, with any table that fits (`Table.leftRecursive_of_loop`).
So the guard of the parser has no false alarms (`Parser.leftRecursive_of_cycle`).

The other way round, a left-recursive derivation is a loop, if it is reached from the start symbol and
something comes of it: the non-terminal with all that it has left above itself derives a word, and with
the first terminal of that word as the next token the table has no choice (`Table.loop_of_leftRecursive`).
With a built table there are no loops, and therefore a reduced grammar with left recursion has no table,
however long the recursion is and whatever vanishes on the way (`Table.conflicts_of_leftRecursive`).
-/

namespace PredictiveParsing

/-- A non-terminal derives, in one or more steps, a form that begins with itself. -/
def Grammar.LeftRecursive (g : Grammar) (A : SymbolId) : Prop :=
  ∃ β, Relation.TransGen g.Produces [A] (A :: β)

namespace Grammar

section

variable {g : Grammar} {A S : SymbolId} {before stack : List SymbolId}

/-- A left-recursive non-terminal has a production that brings it to the top again. -/
theorem LeftRecursive.spells
    (h : g.LeftRecursive A) :
    ∃ p ∈ g.productions, ∃ above, p.lhs = A ∧ g.Spells p.rhs [] (p.lhs :: above) := by
  obtain ⟨β, hloop⟩ := h
  obtain ⟨next, hproduces, hrest⟩ := Relation.TransGen.head'_iff.1 hloop
  obtain ⟨p, hp, rfl, rfl⟩ := hproduces.of_singleton
  have hfront : g.Derives (form p.rhs) ([] ++ p.lhs :: β) := hrest
  obtain ⟨rest, hspells, hhead⟩ := spells_of_derives hfront (by simp)
  obtain ⟨above, rfl⟩ := List.head?_eq_some_iff.1 hhead
  exact ⟨p, hp, above, rfl, hspells⟩

/-- Where every non-terminal derives some word, a stack that is reached can show some terminal. -/
theorem Productive.exists_exposes
    (hproductive : g.Productive)
    (hg : g.WellFormed)
    (hstart : g.start = .ok S)
    (hform : g.Derives [S] (before ++ form stack)) :
    ∃ a, g.Exposes a stack := by
  have hlt : ∀ id ∈ [S], id < g.symbols.size := by
    simpa using (start_eq_ok hstart).1
  obtain ⟨word, hword, hterminals⟩ := hproductive.exists_word fun id hid =>
    hform.lt_size hg hlt id (List.mem_append_right before hid)
  exact ⟨_, (spells_of_derives_word hword hterminals).exposes_head⟩

end

end Grammar

namespace Table

section

variable {g : Grammar} {t : Table} {a A S : SymbolId} {stack stack' above : List SymbolId}

/-! ### Loops are left recursion -/

/-- What a quiet step leaves of a stack, is derived from it. -/
theorem Quiet.derives
    (ht : t.Fits g)
    (h : t.Quiet g a stack stack') :
    g.Derives (form stack) (form stack') := by
  cases h with
  | dropped rest =>
      rw [form_epsilon_cons]
      exact Grammar.Derives.refl (form stack')
  | expanded heps _ hcell rest =>
      obtain ⟨p, hp, rfl⟩ := ht _ _ _ hcell
      rw [form_cons heps]
      simpa [hp] using Grammar.Derives.of_production (List.mem_of_getElem? hp) (form rest)
  | vanished heps _ _ hempty =>
      obtain ⟨ix, p, _, hp, rfl, hrhs⟩ := Grammar.findIdx?_empty hempty
      rw [form_cons heps]
      simpa [hrhs] using Grammar.Derives.of_production (List.mem_of_getElem? hp) (form stack')

theorem derives_of_quiet
    (ht : t.Fits g)
    (h : Relation.ReflTransGen (t.Quiet g a) stack stack') :
    g.Derives (form stack) (form stack') := by
  induction h with
  | refl =>
      exact Grammar.Derives.refl (form stack)
  | tail _ hquiet ih =>
      exact ih.trans (hquiet.derives ht)

theorem leftRecursive_of_loop
    (ht : t.Fits g)
    (hloop : Relation.TransGen (t.Quiet g a) [A] (A :: above)) :
    g.LeftRecursive A := by
  obtain ⟨heps, ix, hcell, hrest⟩ := expanded_of_loop hloop
  obtain ⟨p, hp, rfl⟩ := ht A a ix hcell
  have hproduction : g.Produces [p.lhs] (form p.rhs) := by
    simpa using Grammar.Produces.expand (List.mem_of_getElem? hp) [] []
  have hderives := derives_of_quiet ht hrest
  rw [hp, Option.map_some, Option.getD_some, form_cons heps] at hderives
  exact ⟨form above, Relation.TransGen.head' hproduction hderives⟩

/-! ### Left recursion is a loop -/

/-- The production that exposes the next token is the quiet step of its non-terminal. -/
theorem quiet_of_exposes
    (hg : g.WellFormed)
    (ht : Table.ofGrammar g = .ok t)
    (hstart : g.start = .ok S)
    {p : Production} {before after : List SymbolId}
    (hp : p ∈ g.productions)
    (hform : g.Derives [S] (before ++ form (p.lhs :: stack ++ after)))
    (hexposes : g.Exposes a (p.rhs ++ stack ++ after)) :
    t.Quiet g a (p.lhs :: stack) (p.rhs ++ stack) := by
  have hterm := hg.lhs_nonterminal p hp
  obtain ⟨ix, hix⟩ := List.mem_iff_getElem?.1 hp
  rw [List.append_assoc] at hexposes
  have hcell := get?_of_exposes hg ht hstart hix hform hexposes
  simpa [hix] using Quiet.expanded (hg.ne_epsilon hterm) hterm hcell stack

/-- A stack that can bring another one to light, does so on the next token that this one exposes. -/
theorem quiet_of_spells
    (hg : g.WellFormed)
    (ht : Table.ofGrammar g = .ok t)
    (hstart : g.start = .ok S)
    {before after : List SymbolId}
    (hspells : g.Spells stack [] stack')
    (hform : g.Derives [S] (before ++ form (stack ++ after)))
    (hexposes : g.Exposes a (stack' ++ after)) :
    Relation.ReflTransGen (t.Quiet g a) stack stack' := by
  generalize hword : ([] : List SymbolId) = word at hspells
  induction hspells with
  | done stack =>
      exact .refl
  | @drop stack _ _ _ ih =>
      rw [List.cons_append, form_epsilon_cons] at hform
      exact .head (.dropped stack) (ih hform hexposes hword)
  | emit =>
      cases hword
  | @expand p stack _ _ hp hspells ih =>
      subst hword
      have hquiet := quiet_of_exposes hg ht hstart hp hform
        ((hspells.append after).exposes fun _ => hexposes)
      refine .head hquiet (ih ?_ hexposes rfl)
      rw [List.append_assoc]
      exact hform.replace_top (hg.derives_rhs hp)

/-- In a reduced grammar with a table, left recursion is a loop. -/
theorem loop_of_leftRecursive
    (hg : g.WellFormed)
    (ht : Table.ofGrammar g = .ok t)
    (hstart : g.start = .ok S)
    (hreduced : g.Reduced S)
    (h : g.LeftRecursive A) :
    ∃ a above, Relation.TransGen (t.Quiet g a) [A] (A :: above) := by
  obtain ⟨p, hp, above, rfl, hspells⟩ := h.spells
  have hterm := hg.lhs_nonterminal p hp
  have hexpand : g.Spells [p.lhs] [] (p.lhs :: above) := by
    refine .expand hp ?_
    rwa [List.append_nil]
  -- the non-terminal is in some form, and what it has become there can show a terminal
  obtain ⟨before, after, hform⟩ :=
    hreduced.reached p.lhs (SymbolTable.mem_nonterminals.2 ⟨hg.lhs_lt p hp, hterm⟩)
  have hform : g.Derives [S] (before ++ form (p.lhs :: after)) :=
    hform.form_append_left hg hstart
  have hlong : g.Derives [S] (before ++ form (p.lhs :: above ++ after)) := by
    refine hform.trans (Grammar.Derives.append_left ?_ before)
    exact (hexpand.append after).derives hg
  obtain ⟨a, hexposes⟩ := hreduced.productive.exists_exposes hg hstart hlong
  -- with that terminal as the next token, the table follows the recursion
  have hfirst : g.Exposes a (p.rhs ++ [] ++ after) := by
    rw [List.append_nil]
    exact (hspells.append after).exposes fun _ => hexposes
  have hquiet := quiet_of_exposes hg ht hstart hp hform hfirst
  rw [List.append_nil] at hquiet
  have hrest := quiet_of_spells hg ht hstart hspells (hform.replace_top (hg.derives_rhs hp)) hexposes
  exact ⟨a, above, Relation.TransGen.head' hquiet hrest⟩

/-- **Left recursion is always caught.**  When no non-terminal of a grammar is useless, a non-terminal
that derives a form that begins with itself, in one or more steps and by whatever vanishes on the way,
makes the table have conflicts. -/
theorem conflicts_of_leftRecursive
    (hg : g.Reachable)
    (hstart : g.start = .ok S)
    (hreduced : g.Reduced S)
    (hA : g.LeftRecursive A) :
    ∃ conflicts, conflicts ≠ [] ∧ Table.ofGrammar g = .error (.conflicts conflicts) := by
  refine exists_conflicts hg.wellFormed hstart fun t ht => ?_
  obtain ⟨_, _, hloop⟩ := loop_of_leftRecursive hg.wellFormed ht hstart hreduced hA
  exact not_loop hg.wellFormed ht hloop

end

end Table

/-- A grammar in which `A`, 4, derives `N B`, where `N`, 5, vanishes and `B`, 6, derives `A` or
vanishes. -/
def Grammar.circular : Grammar where
  symbols :=
    { symbols :=
        [SymbolTable.endMarkerSymbol "$", ⟨epsilonName, .terminal epsilonName⟩,
          ⟨"b", .terminal "b"⟩, ⟨"S", .nonterminal⟩, ⟨"A", .nonterminal⟩, ⟨"N", .nonterminal⟩,
          ⟨"B", .nonterminal⟩] }
  productions := [⟨3, [4, 2]⟩, ⟨4, [5, 6]⟩, ⟨5, [1]⟩, ⟨6, [4]⟩, ⟨6, [1]⟩]
  startName := some "S"

theorem Grammar.reachable_circular :
    Grammar.circular.Reachable := by
  have hload : Grammar.ofText
      ("terminal b b;\nstart with S;\n;\n" ++
        "S -> Ab;\nA -> NB;\nN -> EPSILON;\nB -> A;\nB -> EPSILON;\n;\n") =
        .ok Grammar.circular := by
    cbv
  exact Grammar.reachable_of_ofText hload

theorem Grammar.leftRecursive_circular :
    Grammar.circular.LeftRecursive 4 := by
  have hA : Grammar.circular.Produces [4] [5, 6] :=
    .expand (p := ⟨4, [5, 6]⟩) (by decide) [] []
  have hN : Grammar.circular.Produces [5, 6] [6] :=
    .expand (p := ⟨5, [1]⟩) (by decide) [] [6]
  have hB : Grammar.circular.Produces [6] [4] :=
    .expand (p := ⟨6, [4]⟩) (by decide) [] []
  exact ⟨[], .tail (.tail (.single hA) hN) hB⟩

theorem Grammar.reduced_circular :
    Grammar.circular.Reduced 3 := by
  have hall : ∀ A ∈ Grammar.circular.symbols.nonterminals, A = 3 ∨ A = 4 ∨ A = 5 ∨ A = 6 := by
    decide
  have hS : Grammar.circular.Derives [3] [4, 2] :=
    .of_production (p := ⟨3, [4, 2]⟩) (by decide) []
  have hA : Grammar.circular.Derives [4] [5, 6] :=
    .of_production (p := ⟨4, [5, 6]⟩) (by decide) []
  have hN : Grammar.circular.Derives [5] [] :=
    .of_production (p := ⟨5, [1]⟩) (by decide) []
  have hB : Grammar.circular.Derives [6] [] :=
    .of_production (p := ⟨6, [1]⟩) (by decide) []
  have hlong : Grammar.circular.Derives [3] [5, 6, 2] := hS.trans (hA.append_right [2])
  have hvanish : Grammar.circular.Derives [4] [] := (hA.trans (hN.append_right [6])).trans hB
  refine ⟨fun A hmem => ?_, fun A hmem => ?_⟩
  · rcases hall A hmem with rfl | rfl | rfl | rfl
    · exact ⟨[], [], .refl [3]⟩
    · exact ⟨[], [2], hS⟩
    · exact ⟨[], [6, 2], hlong⟩
    · exact ⟨[5], [2], hlong⟩
  · rcases hall A hmem with rfl | rfl | rfl | rfl
    · exact ⟨[2], hS.trans (hvanish.append_right [2]), by decide⟩
    · exact ⟨[], hvanish, by decide⟩
    · exact ⟨[], hN, by decide⟩
    · exact ⟨[], hB, by decide⟩

/-- The circle of `A`, `B` and `A` again uses up nothing, and it makes the table have conflicts. -/
theorem Table.conflicts_of_leftRecursive_circular :
    Grammar.circular.Reduced 3 ∧ Grammar.circular.LeftRecursive 4 ∧
      ∃ conflicts, conflicts ≠ [] ∧
        Table.ofGrammar Grammar.circular = .error (.conflicts conflicts) :=
  ⟨Grammar.reduced_circular, Grammar.leftRecursive_circular,
    conflicts_of_leftRecursive Grammar.reachable_circular (by decide +kernel)
      Grammar.reduced_circular Grammar.leftRecursive_circular⟩

/-- A table for `Grammar.circular` that chooses `B -> A`. -/
def Table.circular : Table where
  rows := [(3, [(2, 0)]), (4, [(2, 1)]), (5, [(2, 2)]), (6, [(2, 3)])]

namespace Parser

section

variable {σ ε : Type} {g : Grammar} {t : Table} {q : Parser σ}

/-- **The guard has no false alarms.**  With any table in which a cell holds a production of its
non-terminal, and over any source, a run that rejects because a non-terminal derives itself without a
token has found one that is left-recursive in the grammar. -/
theorem leftRecursive_of_cycle
    (ht : t.Fits g)
    (src : Source σ ε) (s : σ) (limit : Nat)
    {events : List Event}
    (h : Reaches src g t (Parser.start g s limit) events q)
    {A : SymbolId}
    (hq : q.status = .rejected (.cycle A)) :
    g.LeftRecursive A := by
  have hstart := unlooped_start t g s limit
  obtain ⟨_, _, hloop⟩ := (h.guarded hstart.1 hstart.2).2 A hq
  exact Table.leftRecursive_of_loop ht hloop

/-- Over `b`, the run with `Table.circular` meets `A` above itself. -/
theorem leftRecursive_of_cycle_circular :
    ((Parser.start Grammar.circular [.ok 2] defaultHistoryLimit).run (Source.ofList Unit)
        Grammar.circular Table.circular 20).parser.status = .rejected (.cycle 4) ∧
      Grammar.circular.LeftRecursive 4 := by
  have hcycle : ((Parser.start Grammar.circular [.ok 2] defaultHistoryLimit).run
      (Source.ofList Unit) Grammar.circular Table.circular 20).parser.status =
        .rejected (.cycle 4) := by
    decide +kernel
  have hfits : Table.circular.Fits Grammar.circular := Table.fits_of_rows (by decide)
  exact ⟨hcycle, leftRecursive_of_cycle hfits (Source.ofList Unit) [.ok 2] defaultHistoryLimit
    (reaches_run _ _ _ 20 _) hcycle⟩

end

end Parser
end PredictiveParsing

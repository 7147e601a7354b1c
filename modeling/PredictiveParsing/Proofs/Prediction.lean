import PredictiveParsing.Proofs.Cells
import PredictiveParsing.Proofs.FollowExact
import PredictiveParsing.Proofs.Spelling
import Mathlib.Tactic

/-!
# A built table predicts

`Grammar.Exposes` says that a stack can bring a terminal to its top without emitting anything; an
empty stack shows the end marker.  When a production exposes the terminal that comes next, a table
that was built has that production in its cell (`Table.get?_of_exposes`): there is no other choice.

`Table.Quiet` is what a parser does to its stack between two tokens.  It is a function of the stack
and the token, and so a stack that can show the token is brought to do so (`Table.acc_of_spells`).  A
cell is filled only when its non-terminal can show the token or vanish in front of it.  Therefore no
non-terminal is met again above itself (`Table.not_loop`), and this holds for all of them, also for
those that the start symbol does not reach.
-/

namespace PredictiveParsing

namespace Grammar

/-- A stack can bring a terminal to its top without emitting anything. -/
inductive Exposes (g : Grammar) (a : SymbolId) : List SymbolId → Prop
  | top
      (heps : a ≠ epsilon)
      (hterm : g.isTerminal a = true)
      (rest : List SymbolId) :
      Exposes g a (a :: rest)
  | bottom
      (ha : a = endMarker) :
      Exposes g a []
  | drop
      {stack : List SymbolId}
      (h : Exposes g a stack) :
      Exposes g a (epsilon :: stack)
  | expand
      {p : Production} {stack : List SymbolId}
      (hp : p ∈ g.productions)
      (h : Exposes g a (p.rhs ++ stack)) :
      Exposes g a (p.lhs :: stack)

section

variable {g : Grammar} {first : SetMap} {a : SymbolId} {stack : List SymbolId}

/-- A stack that spells a word exposes its first terminal, or what the rest of the stack exposes. -/
theorem Spells.exposes
    {word rest : List SymbolId}
    (h : g.Spells stack word rest)
    (hrest : word = [] → g.Exposes a rest) :
    g.Exposes (word.headD a) stack := by
  induction h with
  | done stack =>
      exact hrest rfl
  | drop _ ih =>
      exact (ih hrest).drop
  | emit heps hterm _ _ =>
      exact .top heps hterm _
  | expand hp _ ih =>
      exact (ih hrest).expand hp

/-- A stack that spells a word to the end exposes the first terminal of it, or the end marker. -/
theorem Spells.exposes_head
    {word : List SymbolId}
    (h : g.Spells stack word []) :
    g.Exposes (word.headD endMarker) stack := by
  have hword : word.headD (word.headD endMarker) = word.headD endMarker := by
    cases word <;> rfl
  rw [← hword]
  exact h.exposes fun hnil => .bottom (by rw [hnil, List.headD_nil])

/-- The terminal that comes next when a stack emits a word and leaves `rest`: the first one of the
word, or one of `ends` when nothing is emitted and nothing left. -/
def ShowsNext (ends : SymbolId → Prop) (word rest : List SymbolId) (a : SymbolId) : Prop :=
  a ∈ word.head? ∨ (word = [] ∧ rest = [] ∧ ends a)

/-- What a stack exposes, it shows by a spelling. -/
theorem Exposes.spells
    (h : g.Exposes a stack) :
    ∃ word rest, g.Spells stack word rest ∧ ShowsNext (· = endMarker) word rest a := by
  induction h with
  | top heps hterm rest =>
      exact ⟨[a], rest, (Spells.done rest).emit heps hterm, Or.inl rfl⟩
  | bottom ha =>
      exact ⟨[], [], Spells.done [], Or.inr ⟨rfl, rfl, ha⟩⟩
  | drop _ ih =>
      obtain ⟨word, rest, hspells, hnext⟩ := ih
      exact ⟨word, rest, hspells.drop, hnext⟩
  | expand hp _ ih =>
      obtain ⟨word, rest, hspells, hnext⟩ := ih
      exact ⟨word, rest, hspells.expand hp, hnext⟩

/-- What a spelling shows may come next by the sets. -/
theorem trails_of_spells
    (hg : g.WellFormed)
    (hclosed : g.FirstClosed first)
    {ends : SymbolId → Prop} {word rest : List SymbolId}
    (h : g.Spells stack word rest)
    (hnext : ShowsNext ends word rest a) :
    g.Trails first ends stack a := by
  induction h with
  | done stack =>
      rcases hnext with hhead | ⟨_, rfl, hends⟩
      · cases hhead
      · exact Or.inr ⟨mem_firstOf_nil.2 rfl, hends⟩
  | drop _ ih =>
      simpa only [Trails, firstOf_epsilon_cons] using ih hnext
  | emit heps hterm _ _ =>
      rcases hnext with hhead | ⟨hnil, _⟩
      · cases hhead
        exact Or.inl ⟨(mem_firstOf_terminal_cons heps hterm _).2 rfl, heps⟩
      · cases hnil
  | expand hp _ ih =>
      rcases ih hnext with ⟨hmem, hne⟩ | ⟨hnull, hends⟩
      · exact Or.inl ⟨mem_firstOf_of_production hg hclosed hp hmem, hne⟩
      · exact Or.inr ⟨mem_firstOf_of_production hg hclosed hp hnull, hends⟩

/-- What may come next by the computed sets is shown by a spelling. -/
theorem spells_of_trails
    (hg : g.WellFormed)
    {ends : SymbolId → Prop}
    (h : g.Trails g.firstSets.value ends stack a) :
    ∃ word rest, g.Spells stack word rest ∧ ShowsNext ends word rest a := by
  rcases h with ⟨hmem, hne⟩ | ⟨hnull, hends⟩
  · rcases (mem_firstOf_firstSets_iff hg).1 hmem with ⟨rfl, _⟩ | ⟨_, hterm, β, hderives⟩
    · exact absurd rfl hne
    · have hword : ∀ id ∈ [a], g.isTerminal id = true := by
        simpa using hterm
      have hlong : g.Derives (form stack) ([a] ++ β) := hderives
      obtain ⟨rest, hspells, _⟩ := spells_of_derives hlong hword
      exact ⟨[a], rest, hspells, Or.inl rfl⟩
  · have hvanish := begins_epsilon_iff.1 ((mem_firstOf_firstSets_iff hg).1 hnull)
    exact ⟨[], [], spells_of_derives_word hvanish (by simp), Or.inr ⟨rfl, rfl, hends⟩⟩

end

end Grammar

namespace Table

/-- What a parser does to its stack while the next token is `a` and stays so. -/
inductive Quiet (t : Table) (g : Grammar) (a : SymbolId) :
    List SymbolId → List SymbolId → Prop
  | dropped (rest : List SymbolId) : Quiet t g a (epsilon :: rest) rest
  | expanded
      {A : SymbolId} {ix : Nat}
      (heps : A ≠ epsilon)
      (hterm : g.isTerminal A = false)
      (hcell : t.get? A a = some ix)
      (rest : List SymbolId) :
      Quiet t g a (A :: rest) ((g.productions[ix]?.map Production.rhs).getD [] ++ rest)
  | vanished
      {A : SymbolId}
      (heps : A ≠ epsilon)
      (hterm : g.isTerminal A = false)
      (hcell : t.get? A a = none)
      (hempty : g.hasEmptyProduction A = true)
      (rest : List SymbolId) :
      Quiet t g a (A :: rest) rest

section

variable {g : Grammar} {t : Table} {a : SymbolId}

theorem Quiet.append
    {stack stack' : List SymbolId}
    (h : t.Quiet g a stack stack')
    (below : List SymbolId) :
    t.Quiet g a (stack ++ below) (stack' ++ below) := by
  cases h with
  | dropped rest =>
      exact .dropped _
  | expanded heps hterm hcell rest =>
      rw [List.append_assoc]
      exact .expanded heps hterm hcell _
  | vanished heps hterm hcell hempty rest =>
      exact .vanished heps hterm hcell hempty _

theorem Quiet.unique
    {stack stack' other : List SymbolId}
    (h : t.Quiet g a stack stack')
    (hother : t.Quiet g a stack other) :
    stack' = other := by
  cases h with
  | dropped rest =>
      cases hother with
      | dropped =>
          rfl
      | expanded heps | vanished heps =>
          exact absurd rfl heps
  | expanded heps hterm hcell rest =>
      cases hother with
      | dropped =>
          exact absurd rfl heps
      | expanded _ _ hcell' =>
          rw [hcell] at hcell'
          cases hcell'
          rfl
      | vanished _ _ hcell' =>
          rw [hcell] at hcell'
          cases hcell'
  | vanished heps hterm hcell hempty rest =>
      cases hother with
      | dropped =>
          exact absurd rfl heps
      | expanded _ _ hcell' =>
          rw [hcell] at hcell'
          cases hcell'
      | vanished =>
          rfl

theorem exists_start
    (hg : g.WellFormed)
    (ht : Table.ofGrammar g = .ok t) :
    ∃ S, g.start = .ok S := by
  obtain ⟨sets, hsets, _⟩ := ofGrammar_eq_ok ht
  obtain ⟨S, hstart, _⟩ := FirstFollow.closed_of_ofGrammar hg hsets
  exact ⟨S, hstart⟩

/-- With a start symbol, the only reason to have no table is a conflict. -/
theorem exists_conflicts
    (hg : g.WellFormed)
    {S : SymbolId}
    (hstart : g.start = .ok S)
    (hnone : ∀ t, Table.ofGrammar g ≠ .ok t) :
    ∃ conflicts, conflicts ≠ [] ∧ Table.ofGrammar g = .error (.conflicts conflicts) := by
  obtain ⟨_, _, _, hsets⟩ := FirstFollow.ofGrammar_eq hg hstart
  simp only [Table.ofGrammar, hsets] at hnone ⊢
  cases hconflicts : Table.ofSets g _ with
  | ok t =>
      exact absurd (by rw [hconflicts]) (hnone t)
  | error conflicts =>
      exact ⟨conflicts, ne_nil_of_ofSets hconflicts, rfl⟩

section

variable {sets : FirstFollow} {ends : SymbolId → Prop}

/-- A production after which the next terminal may come is the one in the cell. -/
theorem get?_of_trails
    (hg : g.WellFormed)
    (htable : Table.ofSets g sets = .ok t)
    {p : Production} {ix : Nat}
    (hp : g.productions[ix]? = some p)
    {rest : List SymbolId}
    (hcovers : g.Covers sets.first sets.follow ends (p.lhs :: rest))
    (ha : g.Trails sets.first ends (p.rhs ++ rest) a) :
    t.get? p.lhs a = some ix := by
  have hmem := List.mem_of_getElem? hp
  have hlhs := hg.lhs_nonterminal p hmem
  have hpredict : a ∈ sets.predict g p :=
    Grammar.mem_trailing.2 ((Grammar.trails_append.1 ha).mono (hcovers.1 hlhs))
  refine (get?_eq_some_iff_claim htable).2 ⟨?_, Filling.mem_claims.2 ⟨p, hp, rfl, hpredict⟩⟩
  exact SymbolTable.mem_nonterminals.2 ⟨hg.lhs_lt p hmem, hlhs⟩

/-- With the terminal next that a spelling shows, the production of the spelling is the quiet step of
its non-terminal. -/
theorem quiet_of_shown_expand
    (hg : g.WellFormed)
    (htable : Table.ofSets g sets = .ok t)
    (hfirst : g.FirstClosed sets.first)
    {p : Production}
    (hp : p ∈ g.productions)
    {stack word rest : List SymbolId}
    (hspells : g.Spells (p.rhs ++ stack) word rest)
    (hcovers : g.Covers sets.first sets.follow ends (p.lhs :: stack))
    (hnext : Grammar.ShowsNext ends word rest a) :
    t.Quiet g a (p.lhs :: stack) (p.rhs ++ stack) := by
  obtain ⟨ix, hix⟩ := List.mem_iff_getElem?.1 hp
  have hlhs := hg.lhs_nonterminal p hp
  have htrails := Grammar.trails_of_spells hg hfirst hspells hnext
  have hcell := get?_of_trails hg htable hix hcovers htrails
  simpa [hix] using Quiet.expanded (hg.ne_epsilon hlhs) hlhs hcell stack

/-- A stack that can show the next terminal by a spelling comes to rest: the table has no other choice
than the productions of the spelling. -/
theorem acc_of_spells
    (hg : g.WellFormed)
    (htable : Table.ofSets g sets = .ok t)
    (hfirst : g.FirstClosed sets.first)
    (hfollow : g.FollowClosed sets.first sets.follow)
    {stack word rest : List SymbolId}
    (hspells : g.Spells stack word rest)
    (hcovers : g.Covers sets.first sets.follow ends stack)
    (hnext : Grammar.ShowsNext ends word rest a) :
    Acc (fun after before => t.Quiet g a before after) stack := by
  induction hspells with
  | done stack =>
      refine Acc.intro _ fun other hquiet => ?_
      rcases hnext with hhead | ⟨_, rfl, _⟩
      · cases hhead
      · cases hquiet
  | drop _ ih =>
      refine Acc.intro _ fun other hquiet => ?_
      rw [← (Quiet.dropped _).unique hquiet]
      exact ih hcovers.2 hnext
  | emit heps hterm _ _ =>
      refine Acc.intro _ fun other hquiet => ?_
      cases hquiet with
      | dropped =>
          exact absurd rfl heps
      | expanded _ hnonterm | vanished _ hnonterm =>
          rw [hterm] at hnonterm
          cases hnonterm
  | @expand p stack _ _ hp hspells ih =>
      refine Acc.intro _ fun other hquiet => ?_
      have hstep := quiet_of_shown_expand hg htable hfirst hp hspells hcovers hnext
      rw [← hstep.unique hquiet]
      exact ih (hcovers.expand (hg.lhs_nonterminal p hp) (hfollow p hp)) hnext

end

/-- A production that exposes the next terminal in a form of the grammar is the one in the cell. -/
theorem get?_of_exposes
    (hg : g.WellFormed)
    (ht : Table.ofGrammar g = .ok t)
    {S : SymbolId}
    (hstart : g.start = .ok S)
    {p : Production} {ix : Nat}
    (hp : g.productions[ix]? = some p)
    {before rest : List SymbolId}
    (hform : g.Derives [S] (before ++ form (p.lhs :: rest)))
    (hexposes : g.Exposes a (p.rhs ++ rest)) :
    t.get? p.lhs a = some ix := by
  obtain ⟨sets, hsets, htable⟩ := ofGrammar_eq_ok ht
  obtain ⟨start, hstart', hfirst, hfollow, hend⟩ := FirstFollow.closed_of_ofGrammar hg hsets
  obtain rfl : S = start := Except.ok.inj (hstart.symm.trans hstart')
  have hcovers := Grammar.covers_of_derives_form hg hfirst hfollow hform
  obtain ⟨word, bottom, hspells, hnext⟩ := hexposes.spells
  have htrails := Grammar.trails_of_spells hg hfirst hspells hnext
  refine get?_of_trails hg htable hp hcovers (htrails.mono ?_)
  rintro _ rfl
  exact hend

theorem transGen_quiet_append
    {stack stack' : List SymbolId}
    (h : Relation.TransGen (t.Quiet g a) stack stack')
    (below : List SymbolId) :
    Relation.TransGen (t.Quiet g a) (stack ++ below) (stack' ++ below) :=
  h.lift (· ++ below) fun _ _ hquiet => hquiet.append below

/-- A non-terminal with a production in its cell comes to rest by itself, whether the start symbol
reaches it or not. -/
theorem acc_of_get?
    (hg : g.WellFormed)
    (ht : Table.ofGrammar g = .ok t)
    {A : SymbolId} {ix : Nat}
    (hcell : t.get? A a = some ix) :
    Acc (fun after before => t.Quiet g a before after) [A] := by
  obtain ⟨sets, hsets, htable⟩ := ofGrammar_eq_ok ht
  obtain ⟨_, _, hfirst, hfollow, _⟩ := FirstFollow.closed_of_ofGrammar hg hsets
  obtain ⟨p, hp, rfl, hpredict⟩ :=
    Filling.mem_claims.1 ((get?_eq_some_iff_claim htable).1 hcell).2
  -- the cell was claimed because of a spelling, with FOLLOW of the non-terminal after it
  have htrails := Grammar.mem_trailing.1 hpredict
  rw [FirstFollow.first_of_ofGrammar hsets] at htrails
  obtain ⟨word, rest, hspells, hnext⟩ := Grammar.spells_of_trails hg htrails
  have hexpand : g.Spells [p.lhs] word rest := by
    refine .expand (List.mem_of_getElem? hp) ?_
    rwa [List.append_nil]
  exact acc_of_spells hg htable hfirst hfollow hexpand
    (Grammar.covers_singleton fun _ hx => hx) hnext

/-- A non-terminal that comes to the top again above itself goes on doing so for ever. -/
theorem not_loop_of_acc
    {A : SymbolId} {above rest : List SymbolId}
    (hacc : Acc (fun after before => t.Quiet g a before after) (A :: rest)) :
    ¬ Relation.TransGen (t.Quiet g a) [A] (A :: above) := by
  intro hloop
  have hlong := hacc.transGen
  clear hacc
  generalize hstack : A :: rest = stack at hlong
  induction hlong generalizing rest with
  | intro stack _ ih =>
      subst hstack
      refine ih (A :: (above ++ rest)) ?_ rfl
      exact Relation.TransGen.swap _ _ (transGen_quiet_append hloop rest)

/-- A non-terminal that comes to the top again above itself has been expanded by its cell. -/
theorem expanded_of_loop
    {A : SymbolId} {above : List SymbolId}
    (hloop : Relation.TransGen (t.Quiet g a) [A] (A :: above)) :
    A ≠ epsilon ∧ ∃ ix, t.get? A a = some ix ∧
      Relation.ReflTransGen (t.Quiet g a) ((g.productions[ix]?.map Production.rhs).getD [])
        (A :: above) := by
  have hempty : ∀ stack, ¬ Relation.ReflTransGen (t.Quiet g a) [] (A :: stack) := by
    intro stack h
    obtain h | ⟨_, hquiet, _⟩ := h.cases_head
    · cases h
    · cases hquiet
  obtain ⟨next, hquiet, hrest⟩ := Relation.TransGen.head'_iff.1 hloop
  cases hquiet with
  | dropped | vanished =>
      exact absurd hrest (hempty above)
  | expanded heps _ hcell =>
      rw [List.append_nil] at hrest
      exact ⟨heps, _, hcell, hrest⟩

/-- With a table that was built, no non-terminal comes to the top again above itself. -/
theorem not_loop
    (hg : g.WellFormed)
    (ht : Table.ofGrammar g = .ok t)
    {A : SymbolId} {above : List SymbolId} :
    ¬ Relation.TransGen (t.Quiet g a) [A] (A :: above) := by
  intro hloop
  obtain ⟨_, ix, hcell, _⟩ := expanded_of_loop hloop
  exact not_loop_of_acc (acc_of_get? hg ht hcell) hloop

end

end Table
end PredictiveParsing

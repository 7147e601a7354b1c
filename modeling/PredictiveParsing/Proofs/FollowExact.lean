import PredictiveParsing.Proofs.Follow
import Mathlib.Tactic

/-!
# FOLLOW is exact

`Grammar.Followed` says by derivations what FOLLOW of a non-terminal has to hold: the terminals that
come right after it in a form of any non-terminal, whether the start symbol reaches that one or not,
and the end marker when it is the last symbol of a form of the start symbol.

Soundness is an induction over the passes, as it is for FIRST.  What the loop puts into a set comes
after one occurrence in one right-hand side: either from FIRST of the rest, or, when the rest may
vanish, from what comes after the left-hand side (`followed_of_trails`).  Completeness is that sets
which no pass changes cover every derived form (`covers_of_derives`).
-/

namespace PredictiveParsing
namespace Grammar

section

variable {g : Grammar} {first follow : SetMap} {start A B x : SymbolId}

/-- What FOLLOW of a non-terminal has to hold, by way of derivations. -/
def Followed (g : Grammar) (start A x : SymbolId) : Prop :=
  (g.isTerminal x = true ∧ ∃ B ∈ g.symbols.nonterminals, ∃ before after,
      g.Derives [B] (before ++ A :: x :: after)) ∨
    (x = endMarker ∧ ∃ before, g.Derives [start] (before ++ [A]))

/-- A form of a non-terminal never mentions `EPSILON`. -/
theorem epsilon_not_mem_of_derives
    (hg : g.WellFormed)
    {α : List SymbolId}
    (hB : B ∈ g.symbols.nonterminals)
    (h : g.Derives [B] α) :
    epsilon ∉ α := by
  refine h.not_mem (fun p _ => by simp [form]) ?_
  rw [List.mem_singleton]
  exact (hg.ne_epsilon (SymbolTable.mem_nonterminals.1 hB).2).symm

/-- The end of a form of the start symbol has no `EPSILON` signs to leave out. -/
theorem Derives.form_append_left
    (hg : g.WellFormed)
    {S : SymbolId}
    (hstart : g.start = .ok S)
    {before stack : List SymbolId}
    (h : g.Derives [S] (before ++ stack)) :
    g.Derives [S] (before ++ form stack) := by
  obtain ⟨hlt, hterm⟩ := start_eq_ok hstart
  have hnone := epsilon_not_mem_of_derives hg (SymbolTable.mem_nonterminals.2 ⟨hlt, hterm⟩) h
  rwa [form_eq_self fun hmem => hnone (List.mem_append_right before hmem)]

theorem Followed.terminal
    (hg : g.WellFormed)
    (h : g.Followed start A x) :
    g.isTerminal x = true ∧ x ≠ epsilon := by
  rcases h with ⟨hterm, B, hB, before, after, hderives⟩ | ⟨rfl, _⟩
  · refine ⟨hterm, ?_⟩
    rintro rfl
    exact epsilon_not_mem_of_derives hg hB hderives (by simp)
  · exact ⟨hg.endMarker_terminal, by decide⟩

/-! ### Soundness -/

/-- What comes after a non-terminal comes after the last symbol of its forms. -/
theorem Followed.of_last
    (h : g.Followed start B x)
    {before : List SymbolId}
    (hlast : g.Derives [B] (before ++ [A])) :
    g.Followed start A x := by
  rcases h with ⟨hterm, C, hC, outer, after, hderives⟩ | ⟨rfl, outer, hderives⟩
  · refine Or.inl ⟨hterm, C, hC, outer ++ before, after, hderives.trans ?_⟩
    simpa using (hlast.append_right (x :: after)).append_left outer
  · refine Or.inr ⟨rfl, outer ++ before, hderives.trans ?_⟩
    simpa using hlast.append_left outer

/-- Of a right-hand side, the symbols after one occurrence may be replaced by what they derive. -/
theorem derives_occurrence
    (hg : g.WellFormed)
    {p : Production}
    (hp : p ∈ g.productions)
    {before rest after : List SymbolId}
    (hrhs : p.rhs = before ++ A :: rest)
    (hA : g.isTerminal A = false)
    (hrest : g.Derives (form rest) after) :
    g.Derives [p.lhs] (form before ++ A :: after) := by
  have hproduction := hg.derives_rhs hp
  rw [hg.form_singleton (hg.lhs_nonterminal p hp), hrhs, form_append,
    form_cons (hg.ne_epsilon hA), List.append_cons] at hproduction
  rw [List.append_cons]
  exact hproduction.trans (hrest.append_left _)

/-- What may come after one occurrence in one right-hand side, does come after it in some form. -/
theorem followed_of_trails
    (hg : g.WellFormed)
    (hfirst : ∀ id x, x ∈ first.get id → g.Begins [id] x)
    {p : Production}
    (hp : p ∈ g.productions)
    {before rest : List SymbolId}
    (hrhs : p.rhs = before ++ A :: rest)
    (hA : g.isTerminal A = false)
    (hx : g.Trails first (g.Followed start p.lhs) rest x) :
    g.Followed start A x := by
  have hlhs : p.lhs ∈ g.symbols.nonterminals :=
    SymbolTable.mem_nonterminals.2 ⟨hg.lhs_lt p hp, hg.lhs_nonterminal p hp⟩
  rcases hx with ⟨hx, hne⟩ | ⟨hnull, hx⟩
  · rcases begins_of_mem_firstOf hfirst hx with ⟨rfl, _⟩ | ⟨_, hterm, after, hafter⟩
    · exact absurd rfl hne
    · exact Or.inl ⟨hterm, p.lhs, hlhs, form before, after,
        derives_occurrence hg hp hrhs hA hafter⟩
  · rcases begins_of_mem_firstOf hfirst hnull with ⟨_, hvanish⟩ | ⟨hne, _⟩
    · exact hx.of_last (derives_occurrence hg hp hrhs hA hvanish)
    · exact absurd rfl hne

/-- Going through a right-hand side keeps the sets sound. -/
theorem followed_followRhs
    (hg : g.WellFormed)
    (hfirst : ∀ id x, x ∈ first.get id → g.Begins [id] x)
    {p : Production}
    (hp : p ∈ g.productions)
    {before ids : List SymbolId}
    (hrhs : p.rhs = before ++ ids)
    (hfollow : ∀ A x, x ∈ follow.get A → g.Followed start A x) :
    ∀ A x, x ∈ (g.followRhs first p.lhs ids follow).get A → g.Followed start A x := by
  induction ids generalizing before follow with
  | nil =>
      exact hfollow
  | cons id ids ih =>
      have hnext : p.rhs = (before ++ [id]) ++ ids := by
        rw [hrhs, List.append_cons]
      unfold followRhs
      split
      · exact ih hnext hfollow
      · rename_i hterm
        refine ih hnext fun A x hx => ?_
        rcases SetMap.mem_get_enlarge.1 hx with hold | ⟨rfl, hnew⟩
        · exact hfollow A x hold
        · have htrails := (mem_trailing.1 hnew).mono fun y hy => hfollow p.lhs y hy
          exact followed_of_trails hg hfirst hp hrhs (by simpa using hterm) htrails

/-- Every member of a set that the loop arrives at comes after its non-terminal. -/
theorem followed_of_settles
    (hg : g.WellFormed)
    (hfirst : ∀ id x, x ∈ first.get id → g.Begins [id] x)
    {passes : Nat}
    (hsettles : Settles (g.followPass first) (g.followSeed start) passes follow) :
    ∀ A x, x ∈ follow.get A → g.Followed start A x := by
  refine hsettles.invariant
    (P := fun m : SetMap => ∀ A x, x ∈ m.get A → g.Followed start A x) ?_ ?_
  · intro m hm
    refine List.foldlRecOn
      (motive := fun m : SetMap => ∀ A x, x ∈ m.get A → g.Followed start A x)
      g.productions _ hm ?_
    intro m' hm' p hp
    exact followed_followRhs hg hfirst hp (List.nil_append p.rhs).symm hm'
  · intro A x hx
    rcases SetMap.mem_get_enlarge.1 hx with hblank | ⟨rfl, hmarker⟩
    · exact absurd hblank (SetMap.not_mem_get_blank _ A x)
    · exact Or.inr ⟨SymbolSet.mem_singleton.1 hmarker, [], Derives.refl [A]⟩

/-! ### Completeness -/

/-- What comes after a non-terminal is in its set, if the sets are closed. -/
theorem mem_follow_of_followed
    (hg : g.WellFormed)
    (hclosed : g.FirstClosed first)
    (hfollow : g.FollowClosed first follow)
    (hstart : endMarker ∈ follow.get start)
    (hA : g.isTerminal A = false)
    (h : g.Followed start A x) :
    x ∈ follow.get A := by
  have hne := (h.terminal hg).2
  rcases h with ⟨hterm, B, _, before, after, hderives⟩ | ⟨rfl, before, hderives⟩
  · -- nothing is taken to come after the form of `B` as a whole
    have hB : g.Covers first follow (fun _ => False) [B] :=
      covers_singleton fun _ hfalse => hfalse.elim
    have hcovers := (covers_of_derives hg hclosed hfollow hderives hB).of_append
    exact hcovers.1 hA x (Or.inl ⟨(mem_firstOf_terminal_cons hne hterm after).2 rfl, hne⟩)
  · have hS : g.Covers first follow (· ∈ follow.get start) [start] :=
      covers_singleton fun _ hx => hx
    have hcovers := (covers_of_derives hg hclosed hfollow hderives hS).of_append
    exact hcovers.1 hA endMarker (Or.inr ⟨mem_firstOf_nil.2 rfl, hstart⟩)

end

end Grammar

namespace FirstFollow

section

variable {g : Grammar}

/-- A grammar with a start symbol has its sets: the values of the two loops. -/
theorem ofGrammar_eq
    (hg : g.WellFormed)
    {S : SymbolId}
    (hstart : g.start = .ok S) :
    ∃ follow : Saturated SetMap,
      g.followSets g.firstSets.value = .ok follow ∧
      Settles (g.followPass g.firstSets.value) (g.followSeed S) follow.passes follow.value ∧
      ofGrammar g = .ok { first := g.firstSets.value, follow := follow.value } := by
  obtain ⟨follow, hfollow, hsettles⟩ :=
    Grammar.followSets_settles hg hstart fun _ _ => Grammar.lt_of_mem_firstSets hg
  refine ⟨follow, hfollow, hsettles, ?_⟩
  simp only [ofGrammar, withFirst, withFollow, hfollow]
  rfl

theorem ofGrammar_eq_error
    {fault : Fault}
    (h : g.start = .error fault) :
    ofGrammar g = .error fault := by
  simp only [ofGrammar, withFollow, Grammar.followSets, h]
  rfl

/-- **FOLLOW is exact.**  The sets are computed unless there is no start symbol, and then the fault
is that of the start symbol.  Both loops come to an end.  The set of a non-terminal holds the
terminals that come right after it in a form of any non-terminal, the end marker if it is the last
symbol of a form of the start symbol, and nothing else: no non-terminal and no `EPSILON`. -/
theorem ofGrammar_exact
    (hg : g.Reachable) :
    (∀ fault, ofGrammar g = .error fault ↔ g.start = .error fault) ∧
    (∀ S, g.start = .ok S → ∃ follow : Saturated SetMap,
      Settles g.firstPass (.blank g.symbols.nonterminals) g.firstSets.passes
        g.firstSets.value ∧
      g.followSets g.firstSets.value = .ok follow ∧
      Settles (g.followPass g.firstSets.value) (g.followSeed S) follow.passes follow.value ∧
      ofGrammar g = .ok { first := g.firstSets.value, follow := follow.value } ∧
      (∀ A ∈ g.symbols.nonterminals, ∀ t ∈ g.symbols.terminals,
        (t ∈ follow.value.get A ↔
          (∃ B ∈ g.symbols.nonterminals, ∃ before after,
            g.Derives [B] (before ++ A :: t :: after)) ∨
          (t = endMarker ∧ ∃ before, g.Derives [S] (before ++ [A])))) ∧
      (∀ A, ∀ x ∈ follow.value.get A, x ∈ g.symbols.terminals ∧ x ≠ epsilon)) := by
  have hwf := hg.wellFormed
  refine ⟨fun fault => ⟨fun h => ?_, ofGrammar_eq_error⟩, fun S hstart => ?_⟩
  · cases hstart : g.start with
    | error other =>
        rw [ofGrammar_eq_error hstart] at h
        cases h
        rfl
    | ok S =>
        obtain ⟨follow, _, _, hok⟩ := ofGrammar_eq hwf hstart
        rw [hok] at h
        cases h
  · obtain ⟨follow, hfollow, hsettles, hok⟩ := ofGrammar_eq hwf hstart
    have hsound := Grammar.followed_of_settles hwf
      (fun _ _ => Grammar.begins_of_mem_firstSets hwf) hsettles
    obtain ⟨S', hstart', hclosed, hcovers, hmarker⟩ := closed_of_ofGrammar hwf hok
    obtain rfl : S = S' := Except.ok.inj (hstart.symm.trans hstart')
    refine ⟨follow, Grammar.firstSets_settles hwf, hfollow, hsettles, hok, ?_, ?_⟩
    · intro A hA t ht
      have hterm := SymbolTable.mem_terminals.1 ht
      have hnonterm := (SymbolTable.mem_nonterminals.1 hA).2
      constructor
      · intro hmem
        exact (hsound A t hmem).imp_left fun h => h.2
      · intro h
        exact Grammar.mem_follow_of_followed hwf hclosed hcovers hmarker hnonterm
          (h.imp_left fun h => ⟨hterm, h⟩)
    · intro A x hx
      obtain ⟨hterm, hne⟩ := (hsound A x hx).terminal hwf
      exact ⟨SymbolTable.mem_terminals.2 hterm, hne⟩

/-- In the grammar of sums, `PLUS` comes after `T` in some form.  `X` is the last symbol of a form of
the start symbol, and so the end marker is in its set. -/
theorem ofGrammar_exact_sums :
    ∃ sets, ofGrammar Grammar.sums = .ok sets ∧
      (∃ B ∈ Grammar.sums.symbols.nonterminals, ∃ before after,
        Grammar.sums.Derives [B] (before ++ 6 :: 2 :: after)) ∧
      endMarker ∈ sets.follow.get 5 := by
  obtain ⟨_, hsets⟩ := ofGrammar_exact Grammar.reachable_sums
  obtain ⟨follow, _, _, _, hok, hexact, _⟩ := hsets 4 (by decide +kernel)
  refine ⟨_, hok, ?_, ?_⟩
  · have hmem : (ofGrammar Grammar.sums).toOption.map
        (fun sets => (sets.follow.get 6).contains 2) = some true := by
      decide +kernel
    rw [hok] at hmem
    rcases (hexact 6 (by decide) 2 (by decide)).1 (Option.some.inj hmem) with h | ⟨hfalse, _⟩
    · exact h
    · cases hfalse
  · have hlast : Grammar.sums.Derives [4] ([6] ++ [5]) :=
      Grammar.reachable_sums.wellFormed.derives_rhs (p := ⟨4, [6, 5]⟩) (by decide)
    exact (hexact 5 (by decide) endMarker (by decide)).2 (Or.inr ⟨rfl, [6], hlast⟩)

end

end FirstFollow
end PredictiveParsing

import PredictiveParsing.Proofs.Derivation
import PredictiveParsing.Proofs.Saturation
import Mathlib.Tactic

/-!
# FIRST is exact

`Grammar.firstOf` reads FIRST of a sequence off the sets of the non-terminals.  Two laws carry this
module: FIRST of a sequence in two parts (`mem_firstOf_append`), and that larger sets give a larger
FIRST (`firstOf_mono`).

Soundness is an induction over the passes: a set that holds only what its non-terminal can begin with
stays so.  Completeness goes the other way round.  Sets that no pass changes are closed under the
productions, and then a step of a derivation can only take members out of FIRST of a form
(`mem_firstOf_of_derives`), while FIRST of a form that begins with a terminal is that terminal.
-/

namespace PredictiveParsing
namespace Grammar

section

variable {g : Grammar} {first first' follow : SetMap}

/-- What a symbol can be for FIRST. -/
theorem symbol_cases
    (g : Grammar) (id : SymbolId) :
    id = epsilon ∨
      (id ≠ epsilon ∧ g.isTerminal id = true) ∨
      (id ≠ epsilon ∧ g.isTerminal id = false) := by
  by_cases heps : id = epsilon
  · exact Or.inl heps
  · cases hterm : g.isTerminal id with
    | true =>
        exact Or.inr (Or.inl ⟨heps, rfl⟩)
    | false =>
        exact Or.inr (Or.inr ⟨heps, rfl⟩)

/-! ### FIRST of a sequence -/

@[simp] theorem mem_firstOf_nil
    {x : SymbolId} :
    x ∈ g.firstOf first [] ↔ x = epsilon := by
  simp [firstOf]

@[simp] theorem firstOf_epsilon_cons
    (rest : List SymbolId) :
    g.firstOf first (epsilon :: rest) = g.firstOf first rest := by
  simp [firstOf]

theorem mem_firstOf_terminal_cons
    {id x : SymbolId}
    (heps : id ≠ epsilon)
    (hterm : g.isTerminal id = true)
    (rest : List SymbolId) :
    x ∈ g.firstOf first (id :: rest) ↔ x = id := by
  simp [firstOf, heps, hterm]

/-- A non-terminal without an entry counts as one with an empty set. -/
theorem mem_firstOf_nonterminal_cons
    {id x : SymbolId}
    (heps : id ≠ epsilon)
    (hterm : g.isTerminal id = false)
    (rest : List SymbolId) :
    x ∈ g.firstOf first (id :: rest) ↔
      (x ∈ first.get id ∧ x ≠ epsilon) ∨
        (epsilon ∈ first.get id ∧ x ∈ g.firstOf first rest) := by
  simp only [firstOf, heps, hterm, if_false, Bool.false_eq_true]
  cases hget : first.get? id with
  | none =>
      simp [SetMap.get, hget]
  | some s =>
      have hs : first.get id = s := by
        simp [SetMap.get, hget]
      rw [hs]
      by_cases hnull : epsilon ∈ s
      · have hcontains : s.contains epsilon = true := hnull
        simp [hcontains, hnull]
      · have hcontains : s.contains epsilon = false := by
          simpa [SymbolSet.mem_iff_contains] using hnull
        simp only [hcontains, Bool.false_eq_true, if_false, hnull, false_and, or_false]
        constructor
        · intro hx
          refine ⟨hx, ?_⟩
          rintro rfl
          exact hnull hx
        · exact fun hx => hx.1

theorem mem_firstOf_singleton
    {id x : SymbolId}
    (heps : id ≠ epsilon)
    (hterm : g.isTerminal id = false) :
    x ∈ g.firstOf first [id] ↔ x ∈ first.get id := by
  rw [mem_firstOf_nonterminal_cons heps hterm, mem_firstOf_nil]
  constructor
  · rintro (⟨hx, _⟩ | ⟨hx, rfl⟩)
    · exact hx
    · exact hx
  · intro hx
    by_cases h : x = epsilon
    · subst h
      exact Or.inr ⟨hx, rfl⟩
    · exact Or.inl ⟨hx, h⟩

/-- FIRST of two sequences, one after the other: the second counts when the first may vanish. -/
theorem mem_firstOf_append
    {x : SymbolId}
    (ids others : List SymbolId) :
    x ∈ g.firstOf first (ids ++ others) ↔
      (x ∈ g.firstOf first ids ∧ x ≠ epsilon) ∨
        (epsilon ∈ g.firstOf first ids ∧ x ∈ g.firstOf first others) := by
  induction ids with
  | nil =>
      simp only [List.nil_append, mem_firstOf_nil, true_and]
      tauto
  | cons id ids ih =>
      rw [List.cons_append]
      rcases g.symbol_cases id with rfl | ⟨heps, hterm⟩ | ⟨heps, hterm⟩
      · simpa using ih
      · simp only [mem_firstOf_terminal_cons heps hterm, Ne.symm heps, false_and, or_false]
        constructor
        · rintro rfl
          exact ⟨rfl, heps⟩
        · exact fun h => h.1
      · simp only [mem_firstOf_nonterminal_cons heps hterm, ih]
        tauto

theorem mem_firstOf_form
    {x : SymbolId}
    (ids : List SymbolId) :
    x ∈ g.firstOf first (form ids) ↔ x ∈ g.firstOf first ids := by
  induction ids with
  | nil =>
      rfl
  | cons id ids ih =>
      rcases g.symbol_cases id with rfl | ⟨heps, hterm⟩ | ⟨heps, hterm⟩
      · simpa using ih
      · simp only [form_cons heps, mem_firstOf_terminal_cons heps hterm]
      · simp only [form_cons heps, mem_firstOf_nonterminal_cons heps hterm, ih]

theorem mem_firstOf_form_append
    {x : SymbolId}
    (ids others : List SymbolId) :
    x ∈ g.firstOf first (form ids ++ others) ↔ x ∈ g.firstOf first (ids ++ others) := by
  simp only [mem_firstOf_append, mem_firstOf_form]

/-- FIRST of a sequence depends on what its symbols are, and not on the rest of the grammar. -/
theorem firstOf_congr
    {g' : Grammar} {ids : List SymbolId}
    (h : ∀ id ∈ ids, g'.isTerminal id = g.isTerminal id) :
    g'.firstOf first ids = g.firstOf first ids := by
  induction ids with
  | nil =>
      rfl
  | cons id ids ih =>
      have hrest := ih fun other hother => h other (List.mem_cons_of_mem _ hother)
      simp only [Grammar.firstOf, h id List.mem_cons_self, hrest]

theorem firstOf_mono
    (hle : first.Le first')
    {ids : List SymbolId} {x : SymbolId}
    (hx : x ∈ g.firstOf first ids) :
    x ∈ g.firstOf first' ids := by
  induction ids with
  | nil =>
      exact hx
  | cons id ids ih =>
      rcases g.symbol_cases id with rfl | ⟨heps, hterm⟩ | ⟨heps, hterm⟩
      · simp only [firstOf_epsilon_cons] at hx ⊢
        exact ih hx
      · rw [mem_firstOf_terminal_cons heps hterm] at hx ⊢
        exact hx
      · rw [mem_firstOf_nonterminal_cons heps hterm] at hx ⊢
        rcases hx with ⟨hx, hne⟩ | ⟨hnull, hx⟩
        · exact Or.inl ⟨hle _ _ hx, hne⟩
        · exact Or.inr ⟨hle _ _ hnull, ih hx⟩

/-- A smaller FIRST at the end of a sequence makes FIRST of the sequence smaller. -/
theorem mem_firstOf_append_left
    {before ids others : List SymbolId}
    (h : ∀ x, x ∈ g.firstOf first ids → x ∈ g.firstOf first others)
    {x : SymbolId}
    (hx : x ∈ g.firstOf first (before ++ ids)) :
    x ∈ g.firstOf first (before ++ others) := by
  rw [mem_firstOf_append] at hx ⊢
  rcases hx with hx | ⟨hnull, hx⟩
  · exact Or.inl hx
  · exact Or.inr ⟨hnull, h x hx⟩

/-- FIRST holds terminals only, if the sets do. -/
theorem isTerminal_of_mem_firstOf
    (hg : g.WellFormed)
    (hfirst : ∀ id x, x ∈ first.get id → g.isTerminal x = true)
    {ids : List SymbolId} {x : SymbolId}
    (hx : x ∈ g.firstOf first ids) :
    g.isTerminal x = true := by
  induction ids with
  | nil =>
      rw [mem_firstOf_nil.1 hx]
      exact hg.epsilon_terminal
  | cons id ids ih =>
      rcases g.symbol_cases id with rfl | ⟨heps, hterm⟩ | ⟨heps, hterm⟩
      · rw [firstOf_epsilon_cons] at hx
        exact ih hx
      · rw [mem_firstOf_terminal_cons heps hterm] at hx
        rw [hx]
        exact hterm
      · rw [mem_firstOf_nonterminal_cons heps hterm] at hx
        rcases hx with ⟨hx, _⟩ | ⟨_, hx⟩
        · exact hfirst id x hx
        · exact ih hx

/-- FIRST stays in a range that has room for all symbols, if the sets do. -/
theorem lt_of_mem_firstOf
    {width : Nat}
    (hwidth : max g.symbols.size 2 ≤ width)
    (hfirst : ∀ id x, x ∈ first.get id → x < width)
    {ids : List SymbolId} {x : SymbolId}
    (hx : x ∈ g.firstOf first ids) :
    x < width := by
  induction ids with
  | nil =>
      rw [mem_firstOf_nil.1 hx]
      have hroom : 2 ≤ width := (le_max_right _ _).trans hwidth
      exact lt_of_lt_of_le (by decide) hroom
  | cons id ids ih =>
      rcases g.symbol_cases id with rfl | ⟨heps, hterm⟩ | ⟨heps, hterm⟩
      · rw [firstOf_epsilon_cons] at hx
        exact ih hx
      · rw [mem_firstOf_terminal_cons heps hterm] at hx
        rw [hx]
        have hroom : g.symbols.size ≤ width := (le_max_left _ _).trans hwidth
        exact lt_of_lt_of_le (SymbolTable.lt_size_of_isTerminal hterm) hroom
      · rw [mem_firstOf_nonterminal_cons heps hterm] at hx
        rcases hx with ⟨hx, _⟩ | ⟨_, hx⟩
        · exact hfirst id x hx
        · exact ih hx

/-! ### The passes -/

theorem le_firstPass
    (g : Grammar) (first : SetMap) :
    first.Le (g.firstPass first) :=
  SetMap.le_foldl (fun m _ => m.le_enlarge _ _) g.productions first

theorem over_firstPass
    (hg : g.WellFormed)
    {width : Nat}
    (hwidth : max g.symbols.size 2 ≤ width)
    (hfirst : first.Over g.symbols.nonterminals width) :
    (g.firstPass first).Over g.symbols.nonterminals width := by
  refine List.foldlRecOn (motive := fun m : SetMap => m.Over g.symbols.nonterminals width)
    g.productions _ hfirst ?_
  intro m hm p hp
  have hkey : p.lhs ∈ g.symbols.nonterminals :=
    SymbolTable.mem_nonterminals.2 ⟨hg.lhs_lt p hp, hg.lhs_nonterminal p hp⟩
  exact hm.enlarge hkey fun x hx => lt_of_mem_firstOf hwidth hm.lt_width hx

/-- A pass gives the left-hand side of every production what it has to have at least. -/
theorem mem_firstPass
    {p : Production}
    (hp : p ∈ g.productions)
    {x : SymbolId}
    (hx : x ∈ g.firstOf first p.rhs) :
    x ∈ (g.firstPass first).get p.lhs := by
  obtain ⟨m, hbefore, hafter⟩ :=
    SetMap.exists_step_of_mem (fun m p => m.le_enlarge p.lhs (g.firstOf m p.rhs)) hp first
  refine hafter _ _ (SetMap.mem_get_enlarge.2 (Or.inr ⟨rfl, ?_⟩))
  exact firstOf_mono hbefore hx

/-- The loop for FIRST comes to an end, with a pass that changes nothing. -/
theorem firstSets_settles
    (hg : g.WellFormed) :
    Settles g.firstPass (.blank g.symbols.nonterminals) g.firstSets.passes g.firstSets.value := by
  refine settles_saturate_sets g.symbols.nonterminals_nodup
    (fun _ hm => over_firstPass hg (le_refl (max g.symbols.size 2)) hm)
    g.le_firstPass (SetMap.over_blank _ _) ?_
  unfold passLimit
  have hlen := g.symbols.nonterminals_length_le
  refine Nat.mul_lt_mul'' ?_ ?_
  · omega
  · omega

/-! ### Soundness -/

/-- What FIRST of a form has to hold, by way of derivations. -/
def Begins (g : Grammar) (α : List SymbolId) (x : SymbolId) : Prop :=
  (x = epsilon ∧ g.Derives α []) ∨
    (x ≠ epsilon ∧ g.isTerminal x = true ∧ ∃ β, g.Derives α (x :: β))

theorem Begins.of_derives
    {α β : List SymbolId} {x : SymbolId}
    (hx : g.Begins β x)
    (h : g.Derives α β) :
    g.Begins α x := by
  rcases hx with ⟨heps, hβ⟩ | ⟨heps, hterm, γ, hβ⟩
  · exact Or.inl ⟨heps, h.trans hβ⟩
  · exact Or.inr ⟨heps, hterm, γ, h.trans hβ⟩

theorem begins_of_mem_firstOf
    (hfirst : ∀ id x, x ∈ first.get id → g.Begins [id] x)
    {ids : List SymbolId} {x : SymbolId}
    (hx : x ∈ g.firstOf first ids) :
    g.Begins (form ids) x := by
  induction ids with
  | nil =>
      exact Or.inl ⟨mem_firstOf_nil.1 hx, Derives.refl _⟩
  | cons id ids ih =>
      rcases g.symbol_cases id with rfl | ⟨heps, hterm⟩ | ⟨heps, hterm⟩
      · rw [firstOf_epsilon_cons] at hx
        rw [form_epsilon_cons]
        exact ih hx
      · rw [mem_firstOf_terminal_cons heps hterm] at hx
        subst hx
        rw [form_cons heps]
        exact Or.inr ⟨heps, hterm, _, Derives.refl _⟩
      · rw [mem_firstOf_nonterminal_cons heps hterm] at hx
        rw [form_cons heps]
        rcases hx with ⟨hx, hne⟩ | ⟨hnull, hx⟩
        · rcases hfirst id x hx with ⟨rfl, _⟩ | ⟨_, hxterm, β, hβ⟩
          · exact absurd rfl hne
          · exact Or.inr ⟨hne, hxterm, β ++ form ids, hβ.append_right (form ids)⟩
        · rcases hfirst id epsilon hnull with ⟨_, hvanish⟩ | ⟨hne, _⟩
          · exact (ih hx).of_derives (hvanish.append_right (form ids))
          · exact absurd rfl hne

/-- Every member of a computed set is one that its non-terminal can begin with. -/
theorem begins_of_mem_firstSets
    (hg : g.WellFormed)
    {id x : SymbolId}
    (hx : x ∈ g.firstSets.value.get id) :
    g.Begins [id] x := by
  refine (firstSets_settles hg).invariant
    (P := fun m : SetMap => ∀ id x, x ∈ m.get id → g.Begins [id] x) ?_ ?_ id x hx
  · intro first hfirst
    refine List.foldlRecOn (motive := fun m : SetMap => ∀ id x, x ∈ m.get id → g.Begins [id] x)
      g.productions _ hfirst ?_
    intro m hm p hp id x hx
    rcases SetMap.mem_get_enlarge.1 hx with hold | ⟨rfl, hnew⟩
    · exact hm id x hold
    · have hstep := Derives.of_production hp []
      rw [List.append_nil] at hstep
      exact (begins_of_mem_firstOf hm hnew).of_derives hstep
  · intro id x hx
    exact absurd hx (SetMap.not_mem_get_blank _ id x)

/-! ### Completeness -/

/-- Sets that hold, for every production, FIRST of its right-hand side. -/
def FirstClosed (g : Grammar) (first : SetMap) : Prop :=
  ∀ p ∈ g.productions, ∀ x ∈ g.firstOf first p.rhs, x ∈ first.get p.lhs

theorem firstClosed_firstSets
    (hg : g.WellFormed) :
    g.FirstClosed g.firstSets.value := by
  intro p hp x hx
  have h := mem_firstPass hp hx
  rwa [(firstSets_settles hg).fixed] at h

/-- A right-hand side in the place of its non-terminal makes FIRST smaller. -/
theorem mem_firstOf_of_production
    (hg : g.WellFormed)
    (hclosed : g.FirstClosed first)
    {p : Production}
    (hp : p ∈ g.productions)
    {after : List SymbolId} {x : SymbolId}
    (hx : x ∈ g.firstOf first (p.rhs ++ after)) :
    x ∈ g.firstOf first (p.lhs :: after) := by
  have hterm := hg.lhs_nonterminal p hp
  rw [mem_firstOf_nonterminal_cons (hg.ne_epsilon hterm) hterm]
  rw [mem_firstOf_append] at hx
  rcases hx with ⟨hx, hne⟩ | ⟨hnull, hx⟩
  · exact Or.inl ⟨hclosed p hp x hx, hne⟩
  · exact Or.inr ⟨hclosed p hp _ hnull, hx⟩

theorem mem_firstOf_of_derives
    (hg : g.WellFormed)
    (hclosed : g.FirstClosed first)
    {α β : List SymbolId}
    (h : g.Derives α β)
    {x : SymbolId}
    (hx : x ∈ g.firstOf first β) :
    x ∈ g.firstOf first α := by
  induction h with
  | refl =>
      exact hx
  | tail _ hstep ih =>
      refine ih ?_
      obtain ⟨hp, before, after⟩ := hstep
      rw [List.append_assoc] at hx
      refine mem_firstOf_append_left (fun y hy => ?_) hx
      exact mem_firstOf_of_production hg hclosed hp ((mem_firstOf_form_append _ _).1 hy)

theorem mem_firstOf_of_begins
    (hg : g.WellFormed)
    (hclosed : g.FirstClosed first)
    {α : List SymbolId} {x : SymbolId}
    (hx : g.Begins α x) :
    x ∈ g.firstOf first α := by
  rcases hx with ⟨rfl, h⟩ | ⟨heps, hterm, β, h⟩
  · exact mem_firstOf_of_derives hg hclosed h (mem_firstOf_nil.2 rfl)
  · exact mem_firstOf_of_derives hg hclosed h
      ((mem_firstOf_terminal_cons heps hterm β).2 rfl)

/-- FIRST of a sequence, from the computed sets, holds exactly what its form can begin with. -/
theorem mem_firstOf_firstSets_iff
    (hg : g.WellFormed)
    {ids : List SymbolId} {x : SymbolId} :
    x ∈ g.firstOf g.firstSets.value ids ↔ g.Begins (form ids) x := by
  constructor
  · exact begins_of_mem_firstOf fun _ _ => begins_of_mem_firstSets hg
  · intro hx
    exact (mem_firstOf_form ids).1 (mem_firstOf_of_begins hg (firstClosed_firstSets hg) hx)

theorem begins_epsilon_iff
    {α : List SymbolId} :
    g.Begins α epsilon ↔ g.Derives α [] := by
  simp [Begins]

theorem begins_terminal_iff
    {α : List SymbolId} {t : SymbolId}
    (hterm : g.isTerminal t = true)
    (heps : t ≠ epsilon) :
    g.Begins α t ↔ ∃ β, g.Derives α (t :: β) := by
  simp [Begins, hterm, heps]

/-- A computed set holds terminals only. -/
theorem isTerminal_of_mem_firstSets
    (hg : g.WellFormed)
    {id x : SymbolId}
    (hx : x ∈ g.firstSets.value.get id) :
    g.isTerminal x = true := by
  rcases begins_of_mem_firstSets hg hx with ⟨rfl, _⟩ | ⟨_, hterm, _⟩
  · exact hg.epsilon_terminal
  · exact hterm

theorem lt_of_mem_firstSets
    (hg : g.WellFormed)
    {id x : SymbolId}
    (hx : x ∈ g.firstSets.value.get id) :
    x < max g.symbols.size 2 := by
  have hterm := isTerminal_of_mem_firstSets hg hx
  exact (SymbolTable.lt_size_of_isTerminal hterm).trans_le (le_max_left _ _)

end

end Grammar

namespace FirstFollow

/-- **FIRST is exact.**  Whatever the sets were before, the loop for FIRST comes to an end.  Then the
set of a non-terminal holds the terminals that begin a form it derives, and `EPSILON` when it derives
the empty form; FIRST of a sequence of symbols is exact in the same way. -/
theorem withFirst_exact
    {g : Grammar}
    (hg : g.Reachable)
    (sets : FirstFollow) :
    Settles g.firstPass (.blank g.symbols.nonterminals) g.firstSets.passes
        (sets.withFirst g).first ∧
      (sets.withFirst g).follow = sets.follow ∧
      (∀ A ∈ g.symbols.nonterminals,
        (∀ t ∈ g.symbols.terminals, t ≠ epsilon →
          (t ∈ (sets.withFirst g).first.get A ↔ ∃ β, g.Derives [A] (t :: β))) ∧
        (epsilon ∈ (sets.withFirst g).first.get A ↔ g.Derives [A] [])) ∧
      (∀ ids : List SymbolId, (∀ id ∈ ids, id < g.symbols.size) →
        (∀ t ∈ g.symbols.terminals, t ≠ epsilon →
          (t ∈ g.firstOf (sets.withFirst g).first ids ↔ ∃ β, g.Derives (form ids) (t :: β))) ∧
        (epsilon ∈ g.firstOf (sets.withFirst g).first ids ↔ g.Derives (form ids) []) ∧
        (∀ x ∈ g.firstOf (sets.withFirst g).first ids, x ∈ g.symbols.terminals)) := by
  have hwf := hg.wellFormed
  have hterminals : ∀ t, t ∈ g.symbols.terminals ↔ g.isTerminal t = true := by
    intro t
    simp only [SymbolTable.terminals, SymbolTable.ids, List.mem_filter, List.mem_range]
    exact ⟨fun h => h.2, fun h => ⟨SymbolTable.lt_size_of_isTerminal h, h⟩⟩
  have hsequence : ∀ ids : List SymbolId,
      (∀ t ∈ g.symbols.terminals, t ≠ epsilon →
        (t ∈ g.firstOf g.firstSets.value ids ↔ ∃ β, g.Derives (form ids) (t :: β))) ∧
      (epsilon ∈ g.firstOf g.firstSets.value ids ↔ g.Derives (form ids) []) := by
    intro ids
    constructor
    · intro t ht heps
      rw [Grammar.mem_firstOf_firstSets_iff hwf,
        Grammar.begins_terminal_iff ((hterminals t).1 ht) heps]
    · rw [Grammar.mem_firstOf_firstSets_iff hwf, Grammar.begins_epsilon_iff]
  refine ⟨Grammar.firstSets_settles hwf, rfl, ?_, ?_⟩
  · intro A hA
    have hterm : g.isTerminal A = false := (SymbolTable.mem_nonterminals.1 hA).2
    have heps := hwf.ne_epsilon hterm
    have hsingle := hsequence [A]
    rw [form_cons heps, form_nil] at hsingle
    simp only [Grammar.mem_firstOf_singleton heps hterm] at hsingle
    exact hsingle
  · intro ids _
    refine ⟨(hsequence ids).1, (hsequence ids).2, ?_⟩
    intro x hx
    refine (hterminals x).2 (Grammar.isTerminal_of_mem_firstOf hwf ?_ hx)
    exact fun _ _ => Grammar.isTerminal_of_mem_firstSets hwf

/-- In the grammar of sums, `X` may vanish and `E` begins with an identifier. -/
theorem withFirst_exact_sums :
    Grammar.sums.Derives [5] [] ∧ ∃ β, Grammar.sums.Derives [4] (3 :: β) := by
  obtain ⟨_, _, hsets, _⟩ := withFirst_exact Grammar.reachable_sums {}
  constructor
  · exact ((hsets 5 (by decide)).2).1 (by decide +kernel)
  · exact ((hsets 4 (by decide)).1 3 (by decide) (by decide)).1 (by decide +kernel)

end FirstFollow
end PredictiveParsing

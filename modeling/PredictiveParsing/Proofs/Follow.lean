import PredictiveParsing.Proofs.First
import Mathlib.Tactic

/-!
# FOLLOW is complete

In a form, what can come after a symbol is FIRST of the rest and, when the rest may vanish, what can
come after the whole form.  `Grammar.Covers` says that sets have room for all of that, for every
non-terminal of a form.

The FOLLOW sets that the loop arrives at cover every right-hand side, with the set of the left-hand
side for what comes after it.  From there a derivation can be followed step by step: sets that cover
a form cover every form derived from it (`covers_of_derives`).
-/

namespace PredictiveParsing
namespace Grammar

section

variable {g : Grammar} {first follow follow' : SetMap}

/-- What may come after a symbol when `rest` does, and one of `ends` after that. -/
def Trails (g : Grammar) (first : SetMap) (ends : SymbolId → Prop) (rest : List SymbolId)
    (x : SymbolId) : Prop :=
  (x ∈ g.firstOf first rest ∧ x ≠ epsilon) ∨ (epsilon ∈ g.firstOf first rest ∧ ends x)

/-- The sets hold what may come after every non-terminal of a sequence, with `ends` after it all. -/
def Covers (g : Grammar) (first follow : SetMap) (ends : SymbolId → Prop) :
    List SymbolId → Prop
  | [] => True
  | id :: rest =>
      (g.isTerminal id = false → ∀ x, g.Trails first ends rest x → x ∈ follow.get id) ∧
        Covers g first follow ends rest

theorem Trails.mono
    {ends ends' : SymbolId → Prop} {rest : List SymbolId} {x : SymbolId}
    (hends : ∀ y, ends y → ends' y)
    (h : g.Trails first ends rest x) :
    g.Trails first ends' rest x := by
  rcases h with h | ⟨hnull, h⟩
  · exact Or.inl h
  · exact Or.inr ⟨hnull, hends x h⟩

theorem mem_trailing
    {lhs x : SymbolId} {rest : List SymbolId} :
    x ∈ g.trailing first follow lhs rest ↔
      g.Trails first (· ∈ follow.get lhs) rest x := by
  unfold trailing Trails
  by_cases hnull : epsilon ∈ g.firstOf first rest
  · have hcontains : (g.firstOf first rest).contains epsilon = true := hnull
    simp [hcontains, hnull]
  · have hcontains : (g.firstOf first rest).contains epsilon = false := by
      simpa [SymbolSet.mem_iff_contains] using hnull
    simp only [hcontains, Bool.false_eq_true, if_false, hnull, false_and, or_false]
    constructor
    · intro hx
      refine ⟨hx, ?_⟩
      rintro rfl
      exact hnull hx
    · exact fun hx => hx.1

/-! ### The passes -/

theorem le_followRhs
    (first : SetMap) (lhs : SymbolId) (ids : List SymbolId) (follow : SetMap) :
    follow.Le (g.followRhs first lhs ids follow) := by
  induction ids generalizing follow with
  | nil =>
      exact SetMap.Le.refl follow
  | cons id ids ih =>
      unfold followRhs
      split
      · exact ih follow
      · exact (follow.le_enlarge _ _).trans (ih _)

theorem le_followPass
    (g : Grammar) (first follow : SetMap) :
    follow.Le (g.followPass first follow) := by
  have hrhs : ∀ (m : SetMap) (p : Production), m.Le (g.followRhs first p.lhs p.rhs m) :=
    fun m p => le_followRhs first p.lhs p.rhs m
  exact SetMap.le_foldl hrhs g.productions follow

theorem over_followRhs
    {width : Nat}
    (hwidth : max g.symbols.size 2 ≤ width)
    (hfirst : ∀ id x, x ∈ first.get id → x < width)
    {lhs : SymbolId} {ids : List SymbolId}
    (hids : ∀ id ∈ ids, id < g.symbols.size)
    (hfollow : follow.Over g.symbols.nonterminals width) :
    (g.followRhs first lhs ids follow).Over g.symbols.nonterminals width := by
  induction ids generalizing follow with
  | nil =>
      exact hfollow
  | cons id ids ih =>
      have htail : ∀ other ∈ ids, other < g.symbols.size :=
        fun other hother => hids other (List.mem_cons_of_mem _ hother)
      unfold followRhs
      split
      · exact ih htail hfollow
      · rename_i hterm
        refine ih htail (hfollow.enlarge ?_ ?_)
        · exact SymbolTable.mem_nonterminals.2
            ⟨hids id List.mem_cons_self, by simpa [isTerminal] using hterm⟩
        · intro x hx
          rcases mem_trailing.1 hx with ⟨hx, _⟩ | ⟨_, hx⟩
          · exact lt_of_mem_firstOf hwidth hfirst hx
          · exact hfollow.lt_width lhs x hx

theorem over_followPass
    (hg : g.WellFormed)
    {width : Nat}
    (hwidth : max g.symbols.size 2 ≤ width)
    (hfirst : ∀ id x, x ∈ first.get id → x < width)
    (hfollow : follow.Over g.symbols.nonterminals width) :
    (g.followPass first follow).Over g.symbols.nonterminals width := by
  refine List.foldlRecOn (motive := fun m : SetMap => m.Over g.symbols.nonterminals width)
    g.productions _ hfollow ?_
  intro m hm p hp
  exact over_followRhs hwidth hfirst (hg.rhs_lt p hp) hm

/-- One right-hand side alone gives its non-terminals what they have to have at least. -/
theorem covers_followRhs
    {ends : SymbolId → Prop} {lhs : SymbolId}
    (hends : ∀ x, ends x → x ∈ follow.get lhs)
    (ids : List SymbolId) :
    g.Covers first (g.followRhs first lhs ids follow) ends ids := by
  induction ids generalizing follow with
  | nil =>
      trivial
  | cons id ids ih =>
      unfold followRhs
      split
      · rename_i hterm
        refine ⟨fun hfalse => ?_, ih hends⟩
        rw [hterm] at hfalse
        cases hfalse
      · refine ⟨fun _ x hx => ?_, ih fun x hx => ?_⟩
        · refine le_followRhs _ _ _ _ _ _ (SetMap.mem_get_enlarge.2 (Or.inr ⟨rfl, ?_⟩))
          exact mem_trailing.2 (hx.mono hends)
        · exact follow.le_enlarge _ _ _ _ (hends x hx)

theorem Covers.mono
    (hle : follow.Le follow')
    {ends : SymbolId → Prop} {ids : List SymbolId}
    (h : g.Covers first follow ends ids) :
    g.Covers first follow' ends ids := by
  induction ids with
  | nil =>
      trivial
  | cons id ids ih =>
      exact ⟨fun hterm x hx => hle _ _ (h.1 hterm x hx), ih h.2⟩

/-- Sets that cover every right-hand side. -/
def FollowClosed (g : Grammar) (first follow : SetMap) : Prop :=
  ∀ p ∈ g.productions, g.Covers first follow (· ∈ follow.get p.lhs) p.rhs

/-- Sets that a pass does not change cover every right-hand side. -/
theorem followClosed_of_fixed
    (hfixed : g.followPass first follow = follow) :
    g.FollowClosed first follow := by
  intro p hp
  have hrhs : ∀ (m : SetMap) (p : Production), m.Le (g.followRhs first p.lhs p.rhs m) :=
    fun m p => le_followRhs first p.lhs p.rhs m
  obtain ⟨m, hbefore, hafter⟩ := SetMap.exists_step_of_mem hrhs hp follow
  have hcovers :
      g.Covers first (g.followRhs first p.lhs p.rhs m) (· ∈ follow.get p.lhs) p.rhs :=
    covers_followRhs (fun x hx => hbefore _ _ hx) p.rhs
  have hpass : (g.followRhs first p.lhs p.rhs m).Le (g.followPass first follow) := hafter
  rw [hfixed] at hpass
  exact hcovers.mono hpass

/-! ### The loop -/

/-- The sets from which the loop for FOLLOW sets out. -/
def followSeed (g : Grammar) (start : SymbolId) : SetMap :=
  (SetMap.blank g.symbols.nonterminals).enlarge start (.singleton endMarker)

theorem start_eq_ok
    {start : SymbolId}
    (h : g.start = .ok start) :
    start < g.symbols.size ∧ g.isTerminal start = false := by
  unfold Grammar.start at h
  split at h
  · cases h
  · obtain ⟨nt, hnt, h⟩ := bind_eq_ok h
    by_cases hterm : g.isTerminal nt = true
    · simp only [hterm, if_true] at h
      cases h
    · simp only [hterm] at h
      by_cases hempty : (g.productionsOf nt).isEmpty = true
      · simp only [hempty, if_true] at h
        cases h
      · simp only [hempty] at h
        cases h
        exact ⟨SymbolTable.lt_size_of_resolve hnt, by simpa using hterm⟩

theorem over_followSeed
    {start : SymbolId}
    (hstart : g.start = .ok start)
    {width : Nat}
    (hwidth : max g.symbols.size 2 ≤ width) :
    (g.followSeed start).Over g.symbols.nonterminals width := by
  obtain ⟨hlt, hterm⟩ := start_eq_ok hstart
  refine (SetMap.over_blank _ _).enlarge (SymbolTable.mem_nonterminals.2 ⟨hlt, hterm⟩) ?_
  intro x hx
  rw [SymbolSet.mem_singleton.1 hx]
  have hroom : 2 ≤ width := (le_max_right _ _).trans hwidth
  exact lt_of_lt_of_le (by decide) hroom

/-- The loop for FOLLOW comes to an end, for sets of FIRST that hold symbols only. -/
theorem followSets_settles
    (hg : g.WellFormed)
    {start : SymbolId}
    (hstart : g.start = .ok start)
    (hfirst : ∀ id x, x ∈ first.get id → x < max g.symbols.size 2) :
    ∃ follow, g.followSets first = .ok follow ∧
      Settles (g.followPass first) (g.followSeed start) follow.passes follow.value := by
  refine ⟨_, by simp only [followSets, hstart]; rfl, ?_⟩
  have hwidth :
      max g.symbols.size 2 ≤ max (max g.symbols.size 2) first.width :=
    le_max_left _ _
  refine settles_saturate_sets g.symbols.nonterminals_nodup
    (fun _ hm => over_followPass hg hwidth
      (fun id x hx => (hfirst id x hx).trans_le hwidth) hm)
    (g.le_followPass first) (over_followSeed hstart hwidth) ?_
  have hlen := g.symbols.nonterminals_length_le
  unfold passLimit
  refine Nat.mul_lt_mul'' ?_ ?_
  · omega
  · omega

/-! ### Derivations -/

theorem Covers.of_append
    {ends : SymbolId → Prop} {before ids : List SymbolId}
    (h : g.Covers first follow ends (before ++ ids)) :
    g.Covers first follow ends ids := by
  induction before with
  | nil =>
      exact h
  | cons id before ih =>
      exact ih h.2

/-- The end of a covered sequence may be replaced by a covered one with a smaller FIRST. -/
theorem Covers.append_left
    {ends : SymbolId → Prop} {before ids others : List SymbolId}
    (h : g.Covers first follow ends (before ++ ids))
    (hfirst : ∀ x, x ∈ g.firstOf first others → x ∈ g.firstOf first ids)
    (hothers : g.Covers first follow ends others) :
    g.Covers first follow ends (before ++ others) := by
  induction before with
  | nil =>
      exact hothers
  | cons id before ih =>
      refine ⟨fun hterm x hx => h.1 hterm x ?_, ih h.2⟩
      rcases hx with ⟨hx, hne⟩ | ⟨hnull, hx⟩
      · exact Or.inl ⟨mem_firstOf_append_left hfirst hx, hne⟩
      · exact Or.inr ⟨mem_firstOf_append_left hfirst hnull, hx⟩

/-- What may come after a sequence in front of `after`, may come after it when `after` is left to
`ends`. -/
theorem trails_append
    {ends : SymbolId → Prop} {ids after : List SymbolId} {x : SymbolId} :
    g.Trails first ends (ids ++ after) x ↔
      g.Trails first (g.Trails first ends after) ids x := by
  unfold Trails
  simp only [mem_firstOf_append]
  tauto

/-- `EPSILON` signs make no difference to what has to be covered. -/
theorem covers_form_append_iff
    (hg : g.WellFormed)
    {ends : SymbolId → Prop}
    (ids after : List SymbolId) :
    g.Covers first follow ends (form ids ++ after) ↔
      g.Covers first follow ends (ids ++ after) := by
  induction ids with
  | nil =>
      rfl
  | cons id ids ih =>
      by_cases heps : id = epsilon
      · subst heps
        rw [form_epsilon_cons, ih, List.cons_append]
        refine ⟨fun h => ⟨fun hfalse => ?_, h⟩, fun h => h.2⟩
        rw [hg.epsilon_terminal] at hfalse
        cases hfalse
      · rw [form_cons heps, List.cons_append, List.cons_append]
        simp only [Covers, Trails, mem_firstOf_form_append, ih]

/-- A right-hand side that is covered with what comes after its non-terminal is covered in the place
of it. -/
theorem Covers.expand
    {ends : SymbolId → Prop} {lhs : SymbolId} {ids after : List SymbolId}
    (h : g.Covers first follow ends (lhs :: after))
    (hlhs : g.isTerminal lhs = false)
    (hids : g.Covers first follow (· ∈ follow.get lhs) ids) :
    g.Covers first follow ends (ids ++ after) := by
  induction ids with
  | nil =>
      exact h.2
  | cons id ids ih =>
      refine ⟨fun hterm x hx => hids.1 hterm x ?_, ih hids.2⟩
      exact (trails_append.1 hx).mono (h.1 hlhs)

theorem covers_of_derives
    (hg : g.WellFormed)
    (hfirst : g.FirstClosed first)
    (hfollow : g.FollowClosed first follow)
    {ends : SymbolId → Prop} {α β : List SymbolId}
    (h : g.Derives α β)
    (hα : g.Covers first follow ends α) :
    g.Covers first follow ends β := by
  induction h with
  | refl =>
      exact hα
  | tail _ hstep ih =>
      cases hstep with
      | @expand p hp before after =>
          rw [List.append_assoc]
          refine ih.append_left ?_ ?_
          · intro x hx
            exact mem_firstOf_of_production hg hfirst hp ((mem_firstOf_form_append _ _).1 hx)
          · refine (covers_form_append_iff hg _ _).2 ?_
            exact ih.of_append.expand (hg.lhs_nonterminal p hp) (hfollow p hp)

theorem covers_singleton
    {ends : SymbolId → Prop} {A : SymbolId}
    (hends : ∀ x, ends x → x ∈ follow.get A) :
    g.Covers first follow ends [A] := by
  refine ⟨fun _ x hx => ?_, trivial⟩
  rcases hx with ⟨hx, hne⟩ | ⟨_, hx⟩
  · exact absurd (mem_firstOf_nil.1 hx) hne
  · exact hends x hx

/-- A stack at the end of a derived form is covered. -/
theorem covers_of_derives_form
    (hg : g.WellFormed)
    (hfirst : g.FirstClosed first)
    (hfollow : g.FollowClosed first follow)
    {start : SymbolId} {before stack : List SymbolId}
    (h : g.Derives [start] (before ++ form stack)) :
    g.Covers first follow (· ∈ follow.get start) stack := by
  have hstart : g.Covers first follow (· ∈ follow.get start) [start] :=
    covers_singleton fun _ hx => hx
  have hcovers := (covers_of_derives hg hfirst hfollow h hstart).of_append
  rw [← List.append_nil (form stack), covers_form_append_iff hg, List.append_nil] at hcovers
  exact hcovers

end

end Grammar

theorem FirstFollow.first_of_ofGrammar
    {g : Grammar} {sets : FirstFollow}
    (h : FirstFollow.ofGrammar g = .ok sets) :
    sets.first = g.firstSets.value := by
  obtain ⟨follow, _, h⟩ := bind_eq_ok h
  cases h
  rfl

/-- The computed sets are closed, and the end marker follows the start symbol. -/
theorem FirstFollow.closed_of_ofGrammar
    {g : Grammar} {sets : FirstFollow}
    (hg : g.WellFormed)
    (h : FirstFollow.ofGrammar g = .ok sets) :
    ∃ start, g.start = .ok start ∧
      g.FirstClosed sets.first ∧
      g.FollowClosed sets.first sets.follow ∧
      endMarker ∈ sets.follow.get start := by
  obtain ⟨follow, hfollow, h⟩ := bind_eq_ok h
  cases h
  obtain ⟨start, hstart, _⟩ := bind_eq_ok hfollow
  obtain ⟨follow', hfollow', hsettles⟩ :=
    Grammar.followSets_settles hg hstart fun _ _ => Grammar.lt_of_mem_firstSets hg
  obtain rfl : follow' = follow := Except.ok.inj (hfollow'.symm.trans hfollow)
  refine ⟨start, hstart, Grammar.firstClosed_firstSets hg, ?_, ?_⟩
  · exact Grammar.followClosed_of_fixed hsettles.fixed
  · refine hsettles.invariant
      (P := fun m : SetMap => endMarker ∈ m.get start) ?_ ?_
    · intro m hm
      exact g.le_followPass _ m _ _ hm
    · exact SetMap.mem_get_enlarge.2 (Or.inr ⟨rfl, SymbolSet.mem_singleton.2 rfl⟩)

end PredictiveParsing

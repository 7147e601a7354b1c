import PredictiveParsing.Proofs.Parser.Step
import Mathlib.Tactic

/-!
# The load of a stack

How much work can a stack still make?  A symbol that may be entered makes one step, and then the work
of the symbols that come in its place.  A non-terminal that was entered is not entered again above
itself, so each level of entering has one non-terminal less to choose from.  `Parser.weight` counts
this for one symbol, and `Parser.load` for a whole stack, of which each symbol has the non-terminals
beneath it on record.

No load is more than the weight of its symbols when nothing was entered (`Parser.load_le`).
Taking the top away makes the load smaller (`Parser.load_pop`), and so does entering a non-terminal
(`Parser.load_push`), however long the right-hand side is that comes in its place.
-/

namespace PredictiveParsing

namespace Grammar

/-- The length of the longest right-hand side. -/
def longest (g : Grammar) : Nat :=
  g.productions.foldr (fun p n => max p.rhs.length n) 0

theorem length_le_longest
    {g : Grammar} {p : Production}
    (hp : p ∈ g.productions) :
    p.rhs.length ≤ g.longest := by
  unfold longest
  generalize g.productions = ps at hp
  induction ps with
  | nil =>
      cases hp
  | cons q ps ih =>
      rw [List.foldr_cons]
      rcases List.mem_cons.1 hp with rfl | hp
      · exact le_max_left _ _
      · exact (ih hp).trans (le_max_right _ _)

/-- The symbols that an index brings onto a stack are no more than that. -/
theorem length_getD_le_longest
    (g : Grammar) (ix : Nat) :
    ((g.productions[ix]?.map Production.rhs).getD []).length ≤ g.longest := by
  cases hix : g.productions[ix]? with
  | none =>
      simp
  | some p =>
      simpa using length_le_longest (List.mem_of_getElem? hix)

end Grammar

namespace Parser

section

variable {width limit : Nat} {entered others : List (SymbolId × Nat)}

/-- The most steps that a symbol can lead to, when `room` more non-terminals can be entered above it
and right-hand sides have no more than `width` symbols. -/
def weight (width : Nat) : Nat → Nat
  | 0 => 1
  | room + 1 => 1 + width * weight width room

theorem weight_succ
    (width room : Nat) :
    weight width (room + 1) = 1 + width * weight width room := by
  rfl

theorem weight_pos
    (width room : Nat) :
    0 < weight width room := by
  cases room with
  | zero =>
      exact Nat.one_pos
  | succ room =>
      rw [weight_succ]
      omega

theorem weight_mono
    {room more : Nat}
    (h : room ≤ more) :
    weight width room ≤ weight width more := by
  induction more generalizing room with
  | zero =>
      rw [Nat.le_zero.1 h]
  | succ more ih =>
      cases room with
      | zero =>
          exact weight_pos width (more + 1)
      | succ room =>
          have hmul : width * weight width room ≤ width * weight width more :=
            Nat.mul_le_mul_left width (ih (Nat.le_of_succ_le_succ h))
          rw [weight_succ, weight_succ]
          omega

/-- The weights of all symbols of a stack, when no more than `limit` non-terminals are entered one
above the other. -/
def load (width limit : Nat) (entered : List (SymbolId × Nat)) : List SymbolId → Nat
  | [] => 0
  | _ :: rest =>
      weight width (limit - (beneath entered rest.length).length) + load width limit entered rest

theorem load_cons
    (top : SymbolId) (rest : List SymbolId) :
    load width limit entered (top :: rest) =
      weight width (limit - (beneath entered rest.length).length) +
        load width limit entered rest := by
  rfl

theorem beneath_beneath
    {height below : Nat}
    (h : below ≤ height) :
    beneath (beneath entered height) below = beneath entered below := by
  unfold beneath
  rw [List.filter_filter]
  refine List.filter_congr fun e _ => ?_
  simp only [← Bool.decide_and, decide_eq_decide]
  omega

theorem beneath_cons_of_lt
    {A : SymbolId} {height below : Nat}
    (h : below < height) :
    beneath ((A, height) :: entered) below = beneath entered below := by
  unfold beneath
  rw [List.filter_cons_of_neg]
  simpa using h

/-- When each non-terminal was entered only once, there is room for one that was not. -/
theorem length_lt_of_fresh
    {nonterminals : List SymbolId} {A : SymbolId}
    (hnodup : (entered.map Prod.fst).Nodup)
    (hentered : ∀ x ∈ entered, x.1 ∈ nonterminals)
    (hA : A ∈ nonterminals)
    (hfresh : ∀ d, (A, d) ∉ entered) :
    entered.length < nonterminals.length := by
  have hall : (A :: entered.map Prod.fst).Nodup := by
    refine List.nodup_cons.2 ⟨fun hmem => ?_, hnodup⟩
    obtain ⟨⟨B, d⟩, hold, rfl⟩ := List.mem_map.1 hmem
    exact hfresh d hold
  have hsubset : A :: entered.map Prod.fst ⊆ nonterminals := by
    intro B hB
    rcases List.mem_cons.1 hB with rfl | hB
    · exact hA
    · obtain ⟨x, hx, rfl⟩ := List.mem_map.1 hB
      exact hentered x hx
  have hlength := (List.subperm_of_subset hall hsubset).length_le
  rw [List.length_cons, List.length_map] at hlength
  omega

/-- The load depends only on what was entered beneath each symbol. -/
theorem load_congr
    {stack : List SymbolId}
    (h : ∀ height < stack.length, beneath entered height = beneath others height) :
    load width limit entered stack = load width limit others stack := by
  induction stack with
  | nil =>
      rfl
  | cons top rest ih =>
      have hrest : ∀ height < rest.length, beneath entered height = beneath others height := by
        intro height hheight
        exact h height (hheight.trans (Nat.lt_succ_self _))
      rw [load_cons, load_cons, ih hrest, h rest.length (Nat.lt_succ_self _)]

theorem load_append
    (new : List SymbolId) {rest : List SymbolId}
    (h : ∀ e ∈ entered, e.2 ≤ rest.length) :
    load width limit entered (new ++ rest) =
      new.length * weight width (limit - entered.length) + load width limit entered rest := by
  induction new with
  | nil =>
      simp
  | cons id new ih =>
      have hall : beneath entered (new ++ rest).length = entered := by
        refine List.filter_eq_self.2 fun e he => ?_
        have hle := h e he
        simp only [List.length_append, decide_eq_true_eq]
        omega
      rw [List.cons_append, load_cons, hall, ih, List.length_cons, Nat.succ_mul]
      omega

/-- The load of a stack is no more than if nothing had been entered. -/
theorem load_le
    (width limit : Nat) (entered : List (SymbolId × Nat)) (stack : List SymbolId) :
    load width limit entered stack ≤ stack.length * weight width limit := by
  induction stack with
  | nil =>
      exact Nat.zero_le _
  | cons top rest ih =>
      have htop :
          weight width (limit - (beneath entered rest.length).length) ≤ weight width limit :=
        weight_mono (Nat.sub_le _ _)
      rw [load_cons, List.length_cons, Nat.succ_mul]
      omega

theorem load_pop
    (top : SymbolId) (rest : List SymbolId) :
    load width limit (beneath entered rest.length) rest <
      load width limit entered (top :: rest) := by
  have hrest :
      load width limit (beneath entered rest.length) rest = load width limit entered rest :=
    load_congr fun height hheight => beneath_beneath hheight.le
  rw [hrest, load_cons]
  have hpos := weight_pos width (limit - (beneath entered rest.length).length)
  omega

/-- Entering a non-terminal makes the load smaller, as long as there is room to enter one. -/
theorem load_push
    (top : SymbolId) {new rest : List SymbolId}
    (hnew : new.length ≤ width)
    (hroom : (beneath entered rest.length).length < limit) :
    load width limit ((top, rest.length) :: beneath entered rest.length) (new ++ rest) <
      load width limit entered (top :: rest) := by
  have hheights : ∀ e ∈ (top, rest.length) :: beneath entered rest.length,
      e.2 ≤ rest.length := by
    intro e he
    rcases List.mem_cons.1 he with rfl | he
    · exact le_refl rest.length
    · exact (mem_beneath.1 he).2
  have hrest :
      load width limit ((top, rest.length) :: beneath entered rest.length) rest =
        load width limit entered rest := by
    refine load_congr fun height hheight => ?_
    rw [beneath_cons_of_lt hheight, beneath_beneath hheight.le]
  obtain ⟨room, hlimit⟩ :=
    Nat.exists_eq_add_of_lt hroom
  have hbefore : limit - (beneath entered rest.length).length = room + 1 := by
    omega
  have hafter :
      limit - ((top, rest.length) :: beneath entered rest.length).length = room := by
    rw [List.length_cons]
    omega
  have hmul : new.length * weight width room ≤ width * weight width room :=
    Nat.mul_le_mul_right _ hnew
  rw [load_append new hheights, hrest, hafter, load_cons, hbefore, weight_succ]
  omega

end

end Parser
end PredictiveParsing

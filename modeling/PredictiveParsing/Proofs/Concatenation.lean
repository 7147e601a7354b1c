import PredictiveParsing.Proofs.First
import Mathlib.Tactic

/-!
# FIRST of a sequence in parts

Of two sequences, one after the other, only the first symbols of the first one count, unless it may
vanish.  On sets this is `SymbolSet.concat`.  `Grammar.firstOf` turns sequences, one after the other,
into sets so concatenated (`firstOf_append`), and therefore its values for single symbols decide it
(`firstOf_eq_foldr`).  What may follow a symbol is such a concatenation as well, with FOLLOW of the
left-hand side for the last set (`trailing_append`).

Nothing here asks where the sets of the non-terminals come from.  They need not be closed under the
productions, and a non-terminal may have no set at all.

FIRST can also be gathered from left to right, in one set for all that was found so far.  `EPSILON` is
taken out of it after every non-terminal and comes in at the end, and none is left over on the way
(`gather_eq`).
-/

namespace PredictiveParsing

namespace SymbolSet

/-- What can come first when something of `s` comes before something of `t`: a member of `t` only
where `s` allows for nothing. -/
def concat (s t : SymbolSet) : SymbolSet :=
  if epsilon ∈ s then (s.erase epsilon).union t else s

section

variable {s t : SymbolSet}

theorem concat_of_mem
    (hnull : epsilon ∈ s) :
    s.concat t = (s.erase epsilon).union t := by
  simp [concat, hnull]

theorem concat_of_not_mem
    (hnull : epsilon ∉ s) :
    s.concat t = s := by
  simp [concat, hnull]

theorem mem_concat
    {x : SymbolId} :
    x ∈ s.concat t ↔ (x ∈ s ∧ x ≠ epsilon) ∨ (epsilon ∈ s ∧ x ∈ t) := by
  by_cases hnull : epsilon ∈ s
  · simp [concat_of_mem hnull, hnull]
  · have hne : x ∈ s → x ≠ epsilon :=
      fun hx => ne_of_mem_of_not_mem hx hnull
    simpa [concat_of_not_mem hnull, hnull] using hne

theorem concat_assoc
    (s t u : SymbolSet) :
    (s.concat t).concat u = s.concat (t.concat u) := by
  refine ext_mem fun x => ?_
  simp only [mem_concat]
  tauto

end

end SymbolSet

/-- A set in the place of a smaller one, or where there was none, makes the map larger. -/
theorem SetMap.le_put
    {m : SetMap} {id : SymbolId} {s : SymbolSet}
    (hs : ∀ x ∈ m.get id, x ∈ s) :
    m.Le (m.put id s) := by
  intro other x hx
  by_cases h : other = id
  · subst h
    simpa [get, get?_put] using hs x hx
  · simpa [get, get?_put, h] using hx

namespace Grammar

section

variable {g : Grammar} {first follow : SetMap}

/-- FIRST of one symbol. -/
def firstOfSymbol (g : Grammar) (first : SetMap) (id : SymbolId) : SymbolSet :=
  if id = epsilon ∨ g.isTerminal id = true then .singleton id else first.get id

theorem firstOf_singleton
    (id : SymbolId) :
    g.firstOf first [id] = g.firstOfSymbol first id := by
  refine SymbolSet.ext_mem fun x => ?_
  rcases g.symbol_cases id with rfl | ⟨heps, hterm⟩ | ⟨heps, hterm⟩
  · simp [firstOfSymbol]
  · simp [firstOfSymbol, mem_firstOf_terminal_cons heps hterm, hterm]
  · simp [firstOfSymbol, mem_firstOf_singleton heps hterm, heps, hterm]

theorem firstOf_append
    (ids others : List SymbolId) :
    g.firstOf first (ids ++ others) = (g.firstOf first ids).concat (g.firstOf first others) := by
  refine SymbolSet.ext_mem fun x => ?_
  rw [mem_firstOf_append, SymbolSet.mem_concat]

/-- FIRST of a sequence is made of FIRST of its symbols. -/
theorem firstOf_eq_foldr
    (ids : List SymbolId) :
    g.firstOf first ids =
      (ids.map (g.firstOfSymbol first)).foldr SymbolSet.concat (.singleton epsilon) := by
  induction ids with
  | nil =>
      rfl
  | cons id ids ih =>
      calc g.firstOf first (id :: ids)
          = (g.firstOf first [id]).concat (g.firstOf first ids) := firstOf_append [id] ids
        _ = (g.firstOfSymbol first id).concat (g.firstOf first ids) := by rw [firstOf_singleton]
        _ = _ := by rw [ih, List.map_cons, List.foldr_cons]

theorem trailing_append
    (lhs : SymbolId) (ids others : List SymbolId) :
    g.trailing first follow lhs (ids ++ others) =
      (g.firstOf first ids).concat (g.trailing first follow lhs others) := by
  have htrailing : ∀ rest, g.trailing first follow lhs rest =
      (g.firstOf first rest).concat (follow.get lhs) := fun _ => rfl
  rw [htrailing, htrailing, firstOf_append, SymbolSet.concat_assoc]

/-! ### From left to right -/

/-- FIRST of a sequence, gathered in one set that starts with what was found before. -/
def gather (g : Grammar) (first : SetMap) (found : SymbolSet) : List SymbolId → SymbolSet
  | [] => found.insert epsilon
  | id :: rest =>
      if id = epsilon then g.gather first found rest
      else if g.isTerminal id then found.insert id
      else
        match first.get? id with
        | none => found
        | some s =>
            let larger := (found.union s).erase epsilon
            if epsilon ∈ s then g.gather first larger rest else larger

/-- A non-terminal without a set adds nothing, as one with an empty set does. -/
theorem gather_nonterminal_cons
    {id : SymbolId} {found : SymbolSet}
    (heps : id ≠ epsilon)
    (hterm : g.isTerminal id = false)
    (hfound : epsilon ∉ found)
    (rest : List SymbolId) :
    g.gather first found (id :: rest) =
      if epsilon ∈ first.get id then
        g.gather first ((found.union (first.get id)).erase epsilon) rest
      else (found.union (first.get id)).erase epsilon := by
  cases hget : first.get? id with
  | none =>
      have hempty : first.get id = .empty := by
        simp [SetMap.get, hget]
      have hsame : (found.union .empty).erase epsilon = found := by
        refine SymbolSet.ext_mem fun x => ?_
        have hne : x ∈ found → x ≠ epsilon :=
          fun hx => ne_of_mem_of_not_mem hx hfound
        simpa using hne
      simp [gather, heps, hterm, hget, hempty, hsame]
  | some s =>
      have hs : first.get id = s := by
        simp [SetMap.get, hget]
      simp [gather, heps, hterm, hget, hs]

theorem gather_eq
    {found : SymbolSet}
    (hfound : epsilon ∉ found)
    (ids : List SymbolId) :
    g.gather first found ids = found.union (g.firstOf first ids) := by
  -- `EPSILON` in `found` would stay there although the sequence cannot vanish.
  induction ids generalizing found with
  | nil =>
      rfl
  | cons id ids ih =>
      rcases g.symbol_cases id with rfl | ⟨heps, hterm⟩ | ⟨heps, hterm⟩
      · rw [firstOf_epsilon_cons, ← ih hfound]
        simp [gather]
      · refine SymbolSet.ext_mem fun x => ?_
        simp [gather, SymbolSet.insert, heps, hterm, mem_firstOf_terminal_cons heps hterm]
      · have hlarger : epsilon ∉ (found.union (first.get id)).erase epsilon := by
          simp
        rw [gather_nonterminal_cons heps hterm hfound, ih hlarger]
        refine SymbolSet.ext_mem fun x => ?_
        have hne : x ∈ found → x ≠ epsilon :=
          fun hx => ne_of_mem_of_not_mem hx hfound
        by_cases hnull : epsilon ∈ first.get id
        · rw [if_pos hnull]
          simp only [SymbolSet.mem_union, SymbolSet.mem_erase,
            mem_firstOf_nonterminal_cons heps hterm]
          tauto
        · rw [if_neg hnull]
          simp only [SymbolSet.mem_union, SymbolSet.mem_erase,
            mem_firstOf_nonterminal_cons heps hterm]
          tauto

end

/-- **FIRST is a homomorphism.**  Whatever sets the non-terminals have, computed or given, and though
some may have none: FIRST of a sequence is concatenated from FIRST of its symbols.  FIRST of two
sequences, one after the other, is that of the first one if that cannot vanish, and otherwise what is
there besides `EPSILON` together with FIRST of the second one.  Larger sets, and sets where there were
none, take no member out of FIRST of any sequence.  Gathering from left to right gives the same. -/
theorem firstOf_is_homomorphism
    (g : Grammar) (sets : FirstFollow) :
    (∀ ids : List SymbolId, g.firstOf sets.first ids =
        (ids.map (g.firstOfSymbol sets.first)).foldr SymbolSet.concat (.singleton epsilon)) ∧
      (∀ ids others : List SymbolId,
        (epsilon ∉ g.firstOf sets.first ids →
          g.firstOf sets.first (ids ++ others) = g.firstOf sets.first ids) ∧
        (epsilon ∈ g.firstOf sets.first ids →
          g.firstOf sets.first (ids ++ others) =
            ((g.firstOf sets.first ids).erase epsilon).union (g.firstOf sets.first others))) ∧
      (∀ larger : FirstFollow, sets.first.Le larger.first →
        ∀ ids : List SymbolId, ∀ x ∈ g.firstOf sets.first ids, x ∈ g.firstOf larger.first ids) ∧
      (∀ (A : SymbolId) (s : SymbolSet), (∀ x ∈ sets.first.get A, x ∈ s) →
        sets.first.Le (sets.first.put A s)) ∧
      (∀ ids : List SymbolId, g.gather sets.first .empty ids = g.firstOf sets.first ids) := by
  refine ⟨firstOf_eq_foldr, ?_, ?_, ?_, ?_⟩
  · intro ids others
    rw [firstOf_append]
    exact ⟨SymbolSet.concat_of_not_mem, SymbolSet.concat_of_mem⟩
  · intro larger hle ids x hx
    exact firstOf_mono hle hx
  · intro A s hs
    exact SetMap.le_put hs
  · intro ids
    rw [gather_eq (SymbolSet.not_mem_empty epsilon)]
    refine SymbolSet.ext_mem fun x => ?_
    simp

/-- Sets for the grammar of sums in which `E` has an empty set, `X` the right one and `T` none. -/
def sumsByHand : FirstFollow where
  first := { entries := [(4, .empty), (5, .ofList [epsilon, 2])] }

/-- In the grammar of sums with sets given by hand, `T` without a set ends what is known, `X` may
vanish before an identifier, and a set for `T` leaves `PLUS` where it is. -/
theorem firstOf_is_homomorphism_byHand :
    (epsilon ∉ sums.firstOf sumsByHand.first [6] ∧
        sums.firstOf sumsByHand.first [6, 3] = .empty) ∧
      (epsilon ∈ sums.firstOf sumsByHand.first [5] ∧
        sums.firstOf sumsByHand.first [5, 3] = .ofList [2, 3]) ∧
      2 ∈ sums.firstOf (sumsByHand.first.put 6 (.singleton 3)) [5, 6] := by
  obtain ⟨_, happend, hmono, hput, _⟩ := firstOf_is_homomorphism sums sumsByHand
  have hends : epsilon ∉ sums.firstOf sumsByHand.first [6] := by
    decide +kernel
  have hnull : epsilon ∈ sums.firstOf sumsByHand.first [5] := by
    decide +kernel
  refine ⟨⟨hends, ?_⟩, ⟨hnull, ?_⟩, ?_⟩
  · exact ((happend [6] [3]).1 hends).trans (by decide +kernel)
  · exact ((happend [5] [3]).2 hnull).trans (by decide +kernel)
  · have hle := hput 6 (.singleton 3) fun x hx => absurd hx (SymbolSet.not_mem_empty x)
    exact hmono { first := sumsByHand.first.put 6 (.singleton 3) } hle [5, 6] 2 (by decide +kernel)

end Grammar
end PredictiveParsing

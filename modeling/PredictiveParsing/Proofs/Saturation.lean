import PredictiveParsing.FirstFollow
import Mathlib.Tactic
import Mathlib.Data.Finset.Prod

/-!
# Saturation comes to an end

`saturate` makes passes until one changes nothing, but no more than a limit.  `Settles` says the same
without a limit: every pass but the last one changes something.  When each change makes some size
larger and that size has a bound, a limit above the bound is never reached, and the two agree
(`settles_saturate`).

For maps of sets the size is the number of members.  It has a bound when the passes keep the symbols
that have an entry and the range of their members (`SetMap.Over`).
-/

namespace PredictiveParsing

section Passes

variable {α : Type} {pass : α → α}

/-- The passes of a loop that ends with the first pass that changes nothing: from `x` it makes `n`
passes and arrives at `y`. -/
inductive Settles (pass : α → α) : α → Nat → α → Prop
  | stable
      {x : α}
      (h : pass x = x) :
      Settles pass x 1 x
  | again
      {x y : α} {n : Nat}
      (h : pass x ≠ x)
      (hrest : Settles pass (pass x) n y) :
      Settles pass x (n + 1) y

theorem Settles.fixed
    {x y : α} {n : Nat}
    (h : Settles pass x n y) :
    pass y = y := by
  induction h with
  | stable h =>
      exact h
  | again _ _ ih =>
      exact ih

/-- What holds at the start and is kept by every pass holds at the end. -/
theorem Settles.invariant
    {x y : α} {n : Nat}
    (h : Settles pass x n y)
    {P : α → Prop}
    (hpass : ∀ z, P z → P (pass z))
    (hx : P x) :
    P y := by
  induction h with
  | stable _ =>
      exact hx
  | again _ _ ih =>
      exact ih (hpass _ hx)

theorem settles_saturate
    [DecidableEq α]
    (P : α → Prop) (size : α → Nat) {bound : Nat}
    (hpass : ∀ x, P x → P (pass x))
    (hgrow : ∀ x, P x → pass x ≠ x → size x < size (pass x))
    (hbound : ∀ x, P x → size x ≤ bound)
    {limit : Nat} {x : α}
    (hx : P x)
    (hlimit : bound < limit + size x) :
    Settles pass x (saturate pass limit x).passes (saturate pass limit x).value := by
  induction limit generalizing x with
  | zero =>
      have hle := hbound x hx
      omega
  | succ limit ih =>
      by_cases h : pass x = x
      · simp only [saturate, h, if_true]
        exact Settles.stable h
      · have hlt := hgrow x hx h
        have hrest := ih (hpass x hx) (by omega)
        simp only [saturate, h, if_false]
        exact Settles.again h hrest

end Passes

/-- Looking up a symbol compares it with one key after the other. -/
theorem lookup_cons_eq_ite
    {β : Type}
    (id key : SymbolId) (b : β) (es : List (SymbolId × β)) :
    ((key, b) :: es).lookup id = if id = key then some b else es.lookup id := by
  by_cases h : id = key
  · simp [h]
  · have hbeq : (id == key) = false := by
      simpa using h
    simp [List.lookup_cons, hbeq, h]

theorem mem_of_lookup
    {β : Type} {es : List (SymbolId × β)} {id : SymbolId} {b : β}
    (h : es.lookup id = some b) :
    (id, b) ∈ es := by
  obtain ⟨_, _, hes, _⟩ := List.lookup_eq_some_iff.1 h
  simp [hes]

namespace SetMap

/-- The symbols that have an entry. -/
def keys (m : SetMap) : List SymbolId :=
  m.entries.map Prod.fst

/-- Every set of `m` is contained in that of `m'`. -/
def Le (m m' : SetMap) : Prop :=
  ∀ id x, x ∈ m.get id → x ∈ m'.get id

/-- The symbols with an entry are `ids`, and the members of the sets are below `width`. -/
structure Over (m : SetMap) (ids : List SymbolId) (width : Nat) : Prop where
  keys_eq : m.keys = ids
  lt_width : ∀ id x, x ∈ m.get id → x < width

theorem Le.refl
    (m : SetMap) :
    m.Le m :=
  fun _ _ h => h

theorem Le.trans
    {m₁ m₂ m₃ : SetMap}
    (h₁ : m₁.Le m₂)
    (h₂ : m₂.Le m₃) :
    m₁.Le m₃ :=
  fun id x h => h₂ id x (h₁ id x h)

theorem lookup_putIn
    (id other : SymbolId) (s : SymbolSet)
    (es : List (SymbolId × SymbolSet)) :
    (putIn id s es).lookup other =
      if other = id then some s else es.lookup other := by
  induction es with
  | nil =>
      simp [putIn, lookup_cons_eq_ite]
  | cons e es ih =>
      obtain ⟨key, t⟩ := e
      by_cases hkey : key = id
      · subst hkey
        by_cases h : other = key <;> simp [putIn, lookup_cons_eq_ite, h]
      · by_cases h : other = key
        · simp [putIn, hkey, h]
        · simp [putIn, lookup_cons_eq_ite, hkey, h, ih]

theorem get?_put
    (m : SetMap) (id other : SymbolId) (s : SymbolSet) :
    (m.put id s).get? other = if other = id then some s else m.get? other :=
  lookup_putIn id other s m.entries

@[simp] theorem mem_get_enlarge
    {m : SetMap} {id other x : SymbolId} {s : SymbolSet} :
    x ∈ (m.enlarge id s).get other ↔ x ∈ m.get other ∨ other = id ∧ x ∈ s := by
  by_cases h : other = id
  · subst h
    simp [enlarge, get, get?_put]
  · simp [enlarge, get, get?_put, h]

theorem le_enlarge
    (m : SetMap) (id : SymbolId) (s : SymbolSet) :
    m.Le (m.enlarge id s) := by
  intro other x hx
  exact mem_get_enlarge.2 (Or.inl hx)

/-- Steps that only enlarge sets, one after the other, only enlarge sets. -/
theorem le_foldl
    {α : Type} {f : SetMap → α → SetMap}
    (hf : ∀ (m : SetMap) (a : α), m.Le (f m a))
    (as : List α) (m : SetMap) :
    m.Le (as.foldl f m) := by
  refine List.foldlRecOn as f (Le.refl m) ?_
  intro m' hm' a _
  exact hm'.trans (hf m' a)

/-- What one of the steps has made is there at the end. -/
theorem exists_step_of_mem
    {α : Type} {f : SetMap → α → SetMap}
    (hf : ∀ (m : SetMap) (a : α), m.Le (f m a))
    {as : List α} {a : α}
    (ha : a ∈ as)
    (m : SetMap) :
    ∃ m', m.Le m' ∧ (f m' a).Le (as.foldl f m) := by
  obtain ⟨earlier, later, rfl⟩ := List.append_of_mem ha
  refine ⟨earlier.foldl f m, le_foldl hf earlier m, ?_⟩
  rw [List.foldl_append, List.foldl_cons]
  exact le_foldl hf later _

theorem keys_enlarge
    {m : SetMap} {id : SymbolId}
    (hid : id ∈ m.keys)
    (s : SymbolSet) :
    (m.enlarge id s).keys = m.keys := by
  have hput : ∀ (t : SymbolSet) (es : List (SymbolId × SymbolSet)),
      id ∈ es.map Prod.fst →
      (putIn id t es).map Prod.fst = es.map Prod.fst := by
    intro t es
    induction es with
    | nil =>
        intro h
        cases h
    | cons e es ih =>
        intro h
        by_cases he : e.1 = id
        · simp [putIn, he]
        · have htail : id ∈ es.map Prod.fst := by
            rcases List.mem_cons.1 h with h | h
            · exact absurd h.symm he
            · exact h
          simp [putIn, he, ih htail]
  exact hput _ m.entries hid

theorem Over.enlarge
    {m : SetMap} {ids : List SymbolId} {width : Nat}
    (hm : m.Over ids width)
    {id : SymbolId} {s : SymbolSet}
    (hid : id ∈ ids)
    (hs : ∀ x ∈ s, x < width) :
    (m.enlarge id s).Over ids width where
  keys_eq := by
    rw [← hm.keys_eq] at hid
    rw [keys_enlarge hid, hm.keys_eq]
  lt_width := by
    intro other x hx
    rcases mem_get_enlarge.1 hx with hx | ⟨_, hx⟩
    · exact hm.lt_width other x hx
    · exact hs x hx

theorem not_mem_get_blank
    (ids : List SymbolId) (id x : SymbolId) :
    x ∉ (blank ids).get id := by
  have hget : (blank ids).get id = .empty := by
    unfold get get? blank
    induction ids with
    | nil =>
        rfl
    | cons other ids ih =>
        by_cases h : id = other
        · simp [h]
        · simpa [lookup_cons_eq_ite, h] using ih
  simp [hget]

theorem over_blank
    (ids : List SymbolId) (width : Nat) :
    (blank ids).Over ids width where
  keys_eq := by
    simp [keys, blank, Function.comp_def]
  lt_width := by
    intro id x hx
    exact absurd hx (not_mem_get_blank ids id x)

/-- Maps with the same keys and the same sets are equal. -/
theorem ext_get
    {m m' : SetMap}
    (hkeys : m.keys = m'.keys)
    (hnodup : m.keys.Nodup)
    (hget : ∀ id, m.get id = m'.get id) :
    m = m' := by
  obtain ⟨es⟩ := m
  obtain ⟨fs⟩ := m'
  congr
  change es.map Prod.fst = fs.map Prod.fst at hkeys
  change (es.map Prod.fst).Nodup at hnodup
  have hlookup : ∀ id ∈ es.map Prod.fst,
      (es.lookup id).getD .empty = (fs.lookup id).getD .empty :=
    fun id _ => hget id
  clear hget
  induction es generalizing fs with
  | nil =>
      simpa using hkeys.symm
  | cons e es ih =>
      cases fs with
      | nil =>
          simp at hkeys
      | cons f fs =>
          obtain ⟨k, s⟩ := e
          obtain ⟨k', s'⟩ := f
          simp only [List.map_cons, List.cons.injEq] at hkeys
          obtain ⟨rfl, htail⟩ := hkeys
          simp only [List.map_cons, List.nodup_cons] at hnodup
          have hhead : s = s' := by
            simpa [lookup_cons_eq_ite] using hlookup k (by simp)
          have hrest : es = fs := by
            refine ih fs htail hnodup.2 ?_
            intro id hid
            have hne : id ≠ k := by
              rintro rfl
              exact hnodup.1 hid
            have h := hlookup id (List.mem_cons_of_mem _ hid)
            simpa [lookup_cons_eq_ite, hne] using h
          rw [hhead, hrest]

/-- Maps with the same keys, each contained in the other, are equal. -/
theorem Le.antisymm
    {m m' : SetMap}
    (h : m.Le m')
    (h' : m'.Le m)
    (hkeys : m.keys = m'.keys)
    (hnodup : m.keys.Nodup) :
    m = m' :=
  ext_get hkeys hnodup fun id => SymbolSet.ext_mem fun x => ⟨h id x, h' id x⟩

/-- The members of all sets that are below `width`, each with the symbol of its set. -/
def members (m : SetMap) (width : Nat) : Finset (SymbolId × SymbolId) :=
  (m.keys.toFinset ×ˢ Finset.range width).filter fun e => e.2 ∈ m.get e.1

theorem mem_keys_of_mem_get
    {m : SetMap} {id x : SymbolId}
    (h : x ∈ m.get id) :
    id ∈ m.keys := by
  by_contra hid
  have hnone : m.get? id = none := by
    refine List.lookup_eq_none_iff.2 ?_
    intro e he
    have hne : id ≠ e.1 := by
      rintro rfl
      exact hid (List.mem_map_of_mem he)
    simpa using hne
  simp [get, hnone] at h

theorem Over.mem_members
    {m : SetMap} {ids : List SymbolId} {width : Nat}
    (hm : m.Over ids width)
    {e : SymbolId × SymbolId} :
    e ∈ m.members width ↔ e.2 ∈ m.get e.1 := by
  constructor
  · intro h
    exact (Finset.mem_filter.1 h).2
  · intro h
    have hkey : e.1 ∈ m.keys.toFinset :=
      List.mem_toFinset.2 (mem_keys_of_mem_get h)
    have hrange : e.2 ∈ Finset.range width :=
      Finset.mem_range.2 (hm.lt_width _ _ h)
    exact Finset.mem_filter.2 ⟨Finset.mem_product.2 ⟨hkey, hrange⟩, h⟩

theorem Over.card_members_le
    {m : SetMap} {ids : List SymbolId} {width : Nat}
    (hm : m.Over ids width) :
    (m.members width).card ≤ ids.length * width := by
  calc (m.members width).card
      ≤ (m.keys.toFinset ×ˢ Finset.range width).card := Finset.card_filter_le _ _
    _ = m.keys.toFinset.card * width := by rw [Finset.card_product, Finset.card_range]
    _ ≤ ids.length * width := by
        rw [hm.keys_eq]
        exact Nat.mul_le_mul_right _ (List.toFinset_card_le ids)

/-- A larger map over the same symbols that is not the same has more members. -/
theorem Over.card_members_lt
    {m m' : SetMap} {ids : List SymbolId} {width : Nat}
    (hnodup : ids.Nodup)
    (hm : m.Over ids width)
    (hm' : m'.Over ids width)
    (hle : m.Le m')
    (hne : m' ≠ m) :
    (m.members width).card < (m'.members width).card := by
  refine Finset.card_lt_card (Finset.ssubset_iff_subset_ne.2 ⟨?_, ?_⟩)
  · intro e he
    exact hm'.mem_members.2 (hle _ _ (hm.mem_members.1 he))
  · intro heq
    refine hne (ext_get ?_ ?_ ?_)
    · rw [hm'.keys_eq, hm.keys_eq]
    · rw [hm'.keys_eq]
      exact hnodup
    · intro id
      refine SymbolSet.ext_mem fun x => ?_
      rw [← hm'.mem_members (e := (id, x)), ← hm.mem_members (e := (id, x)), heq]

end SetMap

/-- Passes that only add members, for the same symbols and from the same range, come to an end. -/
theorem settles_saturate_sets
    {pass : SetMap → SetMap} {ids : List SymbolId} {width limit : Nat} {m : SetMap}
    (hnodup : ids.Nodup)
    (hover : ∀ m : SetMap, m.Over ids width → (pass m).Over ids width)
    (hle : ∀ m : SetMap, m.Le (pass m))
    (hm : m.Over ids width)
    (hlimit : ids.length * width < limit) :
    Settles pass m (saturate pass limit m).passes (saturate pass limit m).value :=
  settles_saturate (fun m => m.Over ids width) (fun m => (m.members width).card) hover
    (fun m hm hne => hm.card_members_lt hnodup (hover m hm) (hle m) hne)
    (fun _ hm => hm.card_members_le) hm (by omega)

end PredictiveParsing

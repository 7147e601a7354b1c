import PredictiveParsing.Symbol

/-!
# Sets of symbols

A set of symbols is a number whose binary digits tell the members: symbol `i` is a member when digit
`i` is one.  Sets with the same members are therefore equal, and a set lists its members in the
order of their numbers.
-/

namespace PredictiveParsing

/-- A set of symbols; digit `i` of `bits` tells whether symbol `i` is a member. -/
structure SymbolSet where
  bits : Nat
deriving DecidableEq, Repr

namespace SymbolSet

def empty : SymbolSet where
  bits := 0

def singleton (id : SymbolId) : SymbolSet where
  bits := 1 <<< id

def contains (s : SymbolSet) (id : SymbolId) : Bool :=
  s.bits.testBit id

instance : Membership SymbolId SymbolSet where
  mem s id := s.contains id = true

instance (id : SymbolId) (s : SymbolSet) : Decidable (id ∈ s) :=
  inferInstanceAs (Decidable (s.contains id = true))

def union (s t : SymbolSet) : SymbolSet where
  bits := s.bits ||| t.bits

def insert (s : SymbolSet) (id : SymbolId) : SymbolSet :=
  s.union (singleton id)

def erase (s : SymbolSet) (id : SymbolId) : SymbolSet where
  bits := if s.contains id then s.bits ^^^ (1 <<< id) else s.bits

/-- A number above all members. -/
def width (s : SymbolSet) : Nat :=
  s.bits.log2 + 1

/-- The members in ascending order. -/
def toList (s : SymbolSet) : List SymbolId :=
  (List.range s.width).filter s.contains

def ofList (ids : List SymbolId) : SymbolSet :=
  ids.foldl insert empty

theorem mem_iff_contains
    {id : SymbolId} {s : SymbolSet} :
    id ∈ s ↔ s.contains id = true := by
  rfl

@[ext] theorem ext
    {s t : SymbolSet}
    (h : ∀ id, s.contains id = t.contains id) :
    s = t := by
  cases s
  cases t
  congr
  exact Nat.eq_of_testBit_eq h

@[simp] theorem contains_empty
    (id : SymbolId) :
    empty.contains id = false := by
  simp [contains, empty]

@[simp] theorem contains_singleton
    (id other : SymbolId) :
    (singleton id).contains other = decide (id = other) := by
  simp only [contains, singleton, Nat.one_shiftLeft]
  exact Nat.testBit_two_pow

@[simp] theorem contains_union
    (s t : SymbolSet) (id : SymbolId) :
    (s.union t).contains id = (s.contains id || t.contains id) := by
  simp [contains, union]

@[simp] theorem contains_insert
    (s : SymbolSet) (id other : SymbolId) :
    (s.insert id).contains other = (s.contains other || decide (id = other)) := by
  simp [insert]

@[simp] theorem contains_erase
    (s : SymbolSet) (id other : SymbolId) :
    (s.erase id).contains other = (s.contains other && decide (id ≠ other)) := by
  have hbit : (1 <<< id).testBit other = decide (id = other) :=
    contains_singleton id other
  by_cases hid : s.contains id = true
  · have hs : s.bits.testBit id = true := hid
    by_cases h : id = other
    · subst h
      simp [contains, erase, hs]
    · simp [contains, erase, hs, h, hbit]
  · have hs : s.bits.testBit id = false := by
      simpa [contains] using hid
    by_cases h : id = other
    · subst h
      simp [contains, erase, hs]
    · simp [contains, erase, hs, h]

@[simp] theorem not_mem_empty
    (id : SymbolId) :
    id ∉ empty := by
  simp [mem_iff_contains]

@[simp] theorem mem_singleton
    {id other : SymbolId} :
    other ∈ singleton id ↔ other = id := by
  simp [mem_iff_contains, @eq_comm _ id]

@[simp] theorem mem_union
    {s t : SymbolSet} {id : SymbolId} :
    id ∈ s.union t ↔ id ∈ s ∨ id ∈ t := by
  simp [mem_iff_contains]

@[simp] theorem mem_erase
    {s : SymbolSet} {id other : SymbolId} :
    other ∈ s.erase id ↔ other ∈ s ∧ other ≠ id := by
  simp [mem_iff_contains, ne_comm]

theorem ext_mem
    {s t : SymbolSet}
    (h : ∀ id, id ∈ s ↔ id ∈ t) :
    s = t := by
  ext id
  exact Bool.eq_iff_iff.2 (h id)

theorem lt_width_of_contains
    {s : SymbolSet} {id : SymbolId}
    (h : s.contains id = true) :
    id < s.width := by
  have hle : 2 ^ id ≤ s.bits := Nat.ge_two_pow_of_testBit h
  have hne : s.bits ≠ 0 := by
    intro h0
    rw [h0] at hle
    exact absurd hle (by simp)
  exact Nat.lt_succ_of_le ((Nat.le_log2 hne).2 hle)

@[simp] theorem mem_toList
    {s : SymbolSet} {id : SymbolId} :
    id ∈ s.toList ↔ id ∈ s := by
  constructor
  · intro h
    exact (List.mem_filter.1 h).2
  · intro h
    exact List.mem_filter.2 ⟨List.mem_range.2 (lt_width_of_contains h), h⟩

end SymbolSet
end PredictiveParsing

import PredictiveParsing.Proofs.Consistency
import Mathlib.Tactic

/-!
# Splitting names that stand side by side

A text that is split is never split into nothing (`SymbolTable.split_ne_nil`).

If no name is empty and none begins another, a text begins with one name at most.  The longest name
that fits is then the only one that fits, and names that are put side by side are found again,
however many they are (`SymbolTable.PrefixFree.splitFrom_spelled`).
-/

namespace PredictiveParsing
namespace SymbolTable

variable {t : SymbolTable} {text : List Char} {id : SymbolId} {ids : List SymbolId}

theorem splitFrom_ne_nil
    (hne : text ≠ [])
    (h : t.splitFrom text = .ok ids) :
    ids ≠ [] := by
  cases text with
  | nil =>
      exact absurd rfl hne
  | cons c rest =>
      rw [splitFrom] at h
      split at h
      · cases h
      · split at h
        · cases h
          exact List.cons_ne_nil _ _
        · cases h

theorem split_ne_nil
    {s : String}
    (h : t.split s = .ok ids) :
    ids ≠ [] := by
  unfold split at h
  split at h
  · cases h
    exact List.cons_ne_nil _ _
  · rename_i hne
    split at h
    · rename_i hfound
      cases h
      refine splitFrom_ne_nil (fun hnil => hne (Or.inl ?_)) hfound
      exact String.toList_eq_nil_iff.1 hnil
    · cases h

/-! ### The names that begin a text -/

theorem mem_candidates
    {c : SymbolId × Nat} :
    c ∈ t.candidates text ↔
      c.1 < t.size ∧ t.name c.1 ≠ "" ∧ (t.name c.1).toList <+: text ∧
        c.2 = (t.name c.1).toList.length := by
  have hguard : ∀ s : Symbol,
      (!s.name.toList.isEmpty && s.name.toList.isPrefixOf text) = true ↔
        s.name ≠ "" ∧ s.name.toList <+: text := by
    intro s
    rw [Bool.and_eq_true, List.isPrefixOf_iff_prefix]
    simp
  simp only [candidates, List.mem_filterMap, Prod.exists, List.mem_zipIdx_iff_getElem?,
    Option.ite_none_right_eq_some, hguard]
  constructor
  · rintro ⟨s, id, hs, ⟨hne, hbegins⟩, heq⟩
    cases heq
    have hname : t.name id = s.name := by
      simp only [SymbolTable.name, hs]
    rw [hname]
    exact ⟨(List.getElem?_eq_some_iff.1 hs).1, hne, hbegins, rfl⟩
  · rintro ⟨hlt, hne, hbegins, hlength⟩
    have hid : c.1 < t.symbols.length := hlt
    rw [name_eq_getElem hid] at hne hbegins hlength
    exact ⟨t.symbols[c.1], c.1, List.getElem?_eq_getElem hid, ⟨hne, hbegins⟩,
      congrArg some (Prod.ext rfl hlength.symm)⟩

theorem longest_ne_none
    {cs : List (SymbolId × Nat)}
    (hne : cs ≠ []) :
    longest cs ≠ none := by
  cases cs with
  | nil =>
      exact absurd rfl hne
  | cons c cs =>
      unfold longest
      split
      · split <;> exact Option.some_ne_none _
      · exact Option.some_ne_none _

/-- No name is empty, and none is a proper beginning of another. -/
structure PrefixFree (t : SymbolTable) : Prop where
  ne_empty : ∀ id < t.size, t.name id ≠ ""
  eq_of_prefix : ∀ id < t.size, ∀ other < t.size,
    (t.name id).toList <+: (t.name other).toList → t.name id = t.name other

namespace PrefixFree

/-- A text begins with one name at most. -/
theorem eq_of_begin
    (h : t.PrefixFree)
    (ht : t.Reachable)
    {other : SymbolId}
    (hid : id < t.size)
    (hother : other < t.size)
    (hbegins : (t.name id).toList <+: text)
    (hbegins' : (t.name other).toList <+: text) :
    id = other := by
  refine ht.eq_of_name_eq hid hother ?_
  rcases List.prefix_or_prefix_of_prefix hbegins hbegins' with hprefix | hprefix
  · exact h.eq_of_prefix id hid other hother hprefix
  · exact (h.eq_of_prefix other hother id hid hprefix).symm

theorem longestName?_name
    (h : t.PrefixFree)
    (ht : t.Reachable)
    (hid : id < t.size)
    (rest : List Char) :
    t.longestName? ((t.name id).toList ++ rest) = some (id, (t.name id).toList.length) := by
  have hbegins : (t.name id).toList <+: (t.name id).toList ++ rest := List.prefix_append _ _
  have hmem : (id, (t.name id).toList.length) ∈ t.candidates ((t.name id).toList ++ rest) :=
    mem_candidates.2 ⟨hid, h.ne_empty id hid, hbegins, rfl⟩
  cases hfound : t.longestName? ((t.name id).toList ++ rest) with
  | none =>
      exact absurd hfound (longest_ne_none (List.ne_nil_of_mem hmem))
  | some c =>
      obtain ⟨hlt, _, hprefix, hlength⟩ := mem_candidates.1 (mem_of_longest hfound)
      obtain rfl := h.eq_of_begin ht hid hlt hbegins hprefix
      rw [← hlength]

end PrefixFree

/-- The names of symbols side by side. -/
def spelled (t : SymbolTable) (ids : List SymbolId) : List Char :=
  ids.flatMap fun id => (t.name id).toList

namespace PrefixFree

/-- Names that stand side by side are found again. -/
theorem splitFrom_spelled
    (h : t.PrefixFree)
    (ht : t.Reachable)
    (hids : ∀ id ∈ ids, id < t.size) :
    t.splitFrom (t.spelled ids) = .ok ids := by
  induction ids with
  | nil =>
      simp [spelled, splitFrom]
  | cons id ids ih =>
      obtain ⟨hid, hids⟩ := List.forall_mem_cons.1 hids
      have hspelled : t.spelled (id :: ids) = (t.name id).toList ++ t.spelled ids :=
        List.flatMap_cons
      have hlongest := h.longestName?_name ht hid (t.spelled ids)
      cases hname : (t.name id).toList with
      | nil =>
          exact absurd (String.toList_eq_nil_iff.1 hname) (h.ne_empty id hid)
      | cons c cs =>
          rw [hname, List.cons_append] at hspelled hlongest
          rw [hspelled, splitFrom, hlongest]
          simp only [List.length_cons, Nat.add_sub_cancel, List.drop_left, ih hids]

/-- Symbols are told by the text that they are spelled as. -/
theorem spelled_inj
    (h : t.PrefixFree)
    (ht : t.Reachable)
    {others : List SymbolId}
    (hids : ∀ id ∈ ids, id < t.size)
    (hothers : ∀ id ∈ others, id < t.size)
    (hsame : t.spelled ids = t.spelled others) :
    ids = others := by
  have hfound := h.splitFrom_spelled ht hids
  rw [hsame, h.splitFrom_spelled ht hothers] at hfound
  exact (Except.ok.inj hfound).symm

/-- Names that stand side by side are found again, also when they make up the text that stands for
an empty right-hand side. -/
theorem split_spelled
    (h : t.PrefixFree)
    (ht : t.Reachable)
    (hne : ids ≠ [])
    (hids : ∀ id ∈ ids, id < t.size) :
    t.split (String.ofList (t.spelled ids)) = .ok ids := by
  have hsplit := h.splitFrom_spelled ht hids
  unfold split
  split
  · rename_i hspecial
    rcases hspecial with hempty | heps
    · have hnil : t.spelled ids = t.spelled [] := String.ofList_eq_empty_iff.1 hempty
      exact absurd (h.spelled_inj ht hids (by simp) hnil) hne
    · have hlt : epsilon < t.size := lt_size_of_isTerminal ht.reserved.2
      have hname : t.spelled ids = t.spelled [epsilon] := by
        rw [← String.toList_ofList (l := t.spelled ids), heps, ← ht.consistent.epsilon_name]
        simp [spelled]
      rw [h.spelled_inj ht hids (by simpa using hlt) hname]
  · rw [String.toList_ofList, hsplit]

end PrefixFree

end SymbolTable
end PredictiveParsing

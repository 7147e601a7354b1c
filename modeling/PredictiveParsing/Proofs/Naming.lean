import PredictiveParsing.Parser.Sources
import PredictiveParsing.Proofs.Reachable
import Mathlib.Tactic

/-!
# The names of symbols

A name is registered once, and the end marker is renamed only to a name that is free.  So no two
symbols of a table have the same name, and a symbol is found by its name
(`SymbolTable.Reachable.id?_name`).
-/

namespace PredictiveParsing
namespace SymbolTable

variable {t t' : SymbolTable} {name : String} {id : SymbolId}

theorem contains_eq_false_iff :
    t.contains name = false ↔ name ∉ t.symbols.map Symbol.name := by
  simp [contains, id?]

theorem not_contains_of_register
    {kind : SymbolKind}
    (h : t.register name kind = .ok (id, t')) :
    t.contains name = false := by
  unfold register at h
  split at h
  · cases h
  · rename_i hfree
    simpa using hfree

/-- A renaming that changes something is one to a free name. -/
theorem not_contains_of_setEndMarker
    {value : String}
    (h : t.setEndMarker value = .ok t')
    (hne : t' ≠ t) :
    t.contains value = false := by
  unfold setEndMarker at h
  split at h
  · cases h
    exact absurd rfl hne
  · split at h
    · cases h
    · rename_i hfree
      simpa using hfree

/-- No two symbols have the same name. -/
theorem Reachable.names_nodup
    (ht : t.Reachable) :
    (t.symbols.map Symbol.name).Nodup := by
  induction ht with
  | initial =>
      decide
  | register _ h ih =>
      have hfree := contains_eq_false_iff.1 (not_contains_of_register h)
      obtain ⟨_, rfl⟩ := register_eq_ok h
      rw [List.map_append]
      refine ih.append (List.nodup_singleton _) ?_
      rw [List.map_singleton, List.disjoint_singleton]
      exact hfree
  | @setEndMarker t t' value _ h ih =>
      by_cases hsame : t' = t
      · rwa [hsame]
      · have hfree := contains_eq_false_iff.1 (not_contains_of_setEndMarker h hsame)
        obtain rfl := (setEndMarker_eq_ok h).resolve_left hsame
        rw [List.map_set]
        exact ih.set hfree

theorem name_eq_getElem
    (hid : id < t.symbols.length) :
    t.name id = t.symbols[id].name := by
  simp [SymbolTable.name, List.getElem?_eq_getElem hid]

/-- A symbol is found by its name. -/
theorem Reachable.id?_name
    (ht : t.Reachable)
    (hid : id < t.size) :
    t.id? (t.name id) = some id := by
  have hlt : id < t.symbols.length := hid
  refine List.findIdx?_eq_some_iff_getElem.2 ⟨hlt, ?_, fun other hother => ?_⟩
  · simp [name_eq_getElem hlt]
  · have hother_lt : other < t.symbols.length := Nat.lt_trans hother hlt
    have hne := List.nodup_iff_getElem?_ne_getElem?.1 ht.names_nodup other id hother (by simpa)
    rw [List.getElem?_map, List.getElem?_map, List.getElem?_eq_getElem hother_lt,
      List.getElem?_eq_getElem hlt] at hne
    simpa [name_eq_getElem hlt] using hne

theorem name_of_id?
    (h : t.id? name = some id) :
    t.name id = name := by
  obtain ⟨hlt, hname, _⟩ := List.findIdx?_eq_some_iff_getElem.1 h
  rw [name_eq_getElem hlt]
  simpa using hname

theorem contains_iff :
    t.contains name = true ↔ ∃ id < t.size, t.name id = name := by
  rw [← Bool.not_eq_false, contains_eq_false_iff, not_not, List.mem_map]
  constructor
  · rintro ⟨s, hs, rfl⟩
    obtain ⟨id, hid, rfl⟩ := List.getElem_of_mem hs
    exact ⟨id, hid, name_eq_getElem hid⟩
  · rintro ⟨id, hid, rfl⟩
    exact ⟨_, List.getElem_mem hid, (name_eq_getElem hid).symm⟩

/-- Names and numbers are inverse to each other. -/
theorem Reachable.id?_eq_some_iff
    (ht : t.Reachable) :
    t.id? name = some id ↔ id < t.size ∧ t.name id = name := by
  constructor
  · intro h
    exact ⟨lt_size_of_id? h, name_of_id? h⟩
  · rintro ⟨hlt, rfl⟩
    exact ht.id?_name hlt

theorem Reachable.eq_of_name_eq
    (ht : t.Reachable)
    {other : SymbolId}
    (hid : id < t.size)
    (hother : other < t.size)
    (hname : t.name id = t.name other) :
    id = other := by
  have hfound := ht.id?_name hid
  rw [hname, ht.id?_name hother] at hfound
  exact (Option.some_inj.1 hfound).symm

/-- A terminal other than `EPSILON` is the token of its name. -/
theorem Reachable.tokenNamed_name
    (ht : t.Reachable)
    (hterminal : t.isTerminal id = true)
    (hne : id ≠ epsilon) :
    Source.tokenNamed t (t.name id) = .ok id := by
  have hresolve : t.resolve (t.name id) = .ok id := by
    simp only [resolve, ht.id?_name (lt_size_of_isTerminal hterminal)]
  have hguard : (t.isTerminal id && id != epsilon) = true := by
    simp [hterminal, hne]
  simp only [Source.tokenNamed, hresolve, bind, Except.bind, hguard, if_true]
  rfl

end SymbolTable
end PredictiveParsing

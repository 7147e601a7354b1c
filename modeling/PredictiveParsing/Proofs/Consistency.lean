import PredictiveParsing.Proofs.Requests
import Mathlib.Tactic

/-!
# What a symbol table always is

Whatever is asked of a symbol table, names and numbers stay inverse to each other, the end marker
stays a terminal that matches its name, and `EPSILON` stays what it is (`SymbolTable.Consistent`).
Numbers are given out one after the other (`SymbolTable.newIds_asked`), a symbol other than the end
marker is never changed (`SymbolTable.symbol_asked`), and a request fails only if it would give a
name to a second symbol (`SymbolTable.Reachable.ask_eq_error_iff`).
-/

namespace PredictiveParsing
namespace SymbolTable

section

variable {t : SymbolTable} {id : SymbolId} {name : String}

/-- What holds of a symbol table at all times: names and numbers are inverse to each other, a symbol
is of one kind, the end marker is a terminal that matches its name, and `EPSILON` is what it was. -/
structure Consistent (t : SymbolTable) : Prop where
  bijOn : Set.BijOn t.name (Set.Iio t.size) {name | t.contains name = true}
  id?_eq_some_iff : ∀ name id, t.id? name = some id ↔ id < t.size ∧ t.name id = name
  existsUnique_kind : ∀ id, (∃! kind, t.kind? id = some kind) ↔ id < t.size
  terminal_or_nonterminal : ∀ id < t.size, Xor (id ∈ t.terminals) (id ∈ t.nonterminals)
  endMarker_kind : t.kind? endMarker = some (.terminal (literalPattern (t.name endMarker)))
  epsilon_name : t.name epsilon = epsilonName
  epsilon_kind : t.kind? epsilon = some (.terminal epsilonName)

theorem Reachable.endMarker_symbol
    (ht : t.Reachable) :
    t.symbols[endMarker]? = some (endMarkerSymbol (t.name endMarker)) := by
  induction ht with
  | initial =>
      rfl
  | @register t t' name kind id ht h ih =>
      obtain ⟨_, rfl⟩ := register_eq_ok h
      have hlt : endMarker < t.size := lt_size_of_isTerminal ht.reserved.1
      change _ = some (endMarkerSymbol ((t.push name kind).name endMarker))
      rw [name_push, if_neg (Nat.ne_of_lt hlt), ← ih]
      exact List.getElem?_append_left hlt
  | @setEndMarker t t' value ht h ih =>
      have hlt : endMarker < t.size := lt_size_of_isTerminal ht.reserved.1
      rcases setEndMarker_eq_ok h with rfl | rfl
      · exact ih
      · change _ = some (endMarkerSymbol ((t.rename value).name endMarker))
        rw [name_rename hlt, if_pos rfl]
        exact List.getElem?_set_self hlt

theorem Reachable.epsilon_symbol
    (ht : t.Reachable) :
    t.symbols[epsilon]? = some { name := epsilonName, kind := .terminal epsilonName } := by
  induction ht with
  | initial =>
      rfl
  | register ht h ih =>
      obtain ⟨_, rfl⟩ := register_eq_ok h
      rw [← ih]
      exact List.getElem?_append_left (lt_size_of_isTerminal ht.reserved.2)
  | setEndMarker _ h ih =>
      rcases setEndMarker_eq_ok h with rfl | rfl
      · exact ih
      · rw [← ih]
        exact List.getElem?_set_ne (by decide)

theorem Reachable.bijOn
    (ht : t.Reachable) :
    Set.BijOn t.name (Set.Iio t.size) {name | t.contains name = true} := by
  refine ⟨fun id hid => ?_, fun id hid other hother hname => ?_, fun name hname => ?_⟩
  · exact contains_iff.2 ⟨id, hid, rfl⟩
  · exact ht.eq_of_name_eq hid hother hname
  · obtain ⟨id, hid, hname⟩ := contains_iff.1 hname
    exact ⟨id, hid, hname⟩

theorem existsUnique_kind
    (t : SymbolTable) (id : SymbolId) :
    (∃! kind, t.kind? id = some kind) ↔ id < t.size := by
  constructor
  · rintro ⟨kind, hkind, _⟩
    obtain ⟨s, hs, _⟩ := Option.map_eq_some_iff.1 hkind
    exact (List.getElem?_eq_some_iff.1 hs).1
  · intro hid
    have hlt : id < t.symbols.length := hid
    have hkind : t.kind? id = some t.symbols[id].kind := by
      rw [kind?, List.getElem?_eq_getElem hlt]
      rfl
    refine ⟨_, hkind, fun kind h => ?_⟩
    rw [hkind] at h
    exact (Option.some_inj.1 h).symm

theorem Reachable.consistent
    (ht : t.Reachable) :
    t.Consistent where
  bijOn := ht.bijOn
  id?_eq_some_iff := fun _ _ => ht.id?_eq_some_iff
  existsUnique_kind := t.existsUnique_kind
  terminal_or_nonterminal := by
    intro id hid
    rw [mem_terminals, mem_nonterminals]
    cases t.isTerminal id with
    | true =>
        exact Or.inl ⟨rfl, fun h => nomatch h.2⟩
    | false =>
        exact Or.inr ⟨⟨hid, rfl⟩, fun h => nomatch h⟩
  endMarker_kind := by
    rw [kind?, ht.endMarker_symbol]
    rfl
  epsilon_name := by
    simp only [SymbolTable.name, ht.epsilon_symbol]
  epsilon_kind := by
    rw [kind?, ht.epsilon_symbol]
    rfl

/-! ### Runs of requests -/

/-- A symbol other than the end marker is never changed. -/
theorem symbol_asked
    (hid : id < t.size)
    (hne : id ≠ endMarker)
    (rs : List Request) :
    id < (inTurn ask t rs).2.size ∧ (inTurn ask t rs).2.symbols[id]? = t.symbols[id]? := by
  refine inTurn_invariant
    (P := fun t' : SymbolTable => id < t'.size ∧ t'.symbols[id]? = t.symbols[id]?)
    ⟨hid, rfl⟩ rs ?_
  rintro t' r _ ⟨hlt, hsame⟩
  exact ⟨Nat.lt_of_lt_of_le hlt (t'.size_le_ask r), (getElem?_ask r hlt hne).trans hsame⟩

/-- The numbers of the symbols that were new, in the order of the answers. -/
def newIds (answers : List (Except Fault (Option SymbolId))) : List SymbolId :=
  answers.filterMap fun answer => answer.toOption.join

/-- Numbers are given out one after the other. -/
theorem newIds_asked
    (t : SymbolTable) (rs : List Request) :
    ∃ n, (inTurn ask t rs).2.size = t.size + n ∧
      newIds (inTurn ask t rs).1 = List.range' t.size n := by
  induction rs generalizing t with
  | nil =>
      exact ⟨0, rfl, rfl⟩
  | cons r rs ih =>
      obtain ⟨n, hsize, hids⟩ := ih (t.ask r).2
      have h := t.ask_effect r
      simp only [inTurn]
      generalize t.ask r = asked at h hsize hids ⊢
      cases h with
      | added =>
          refine ⟨n + 1, ?_, ?_⟩
          · rw [hsize, size_push]
            omega
          · rw [List.range'_succ, ← size_push t _ _, ← hids]
            rfl
      | renamed =>
          refine ⟨n, ?_, ?_⟩
          · rw [hsize, size_rename]
          · rw [← size_rename t r.name, ← hids]
            rfl
      | kept | refused =>
          exact ⟨n, hsize, hids⟩

/-- A request fails when it would give a name to a second symbol, and only then. -/
theorem Reachable.ask_eq_error_iff
    (ht : t.Reachable)
    (r : Request) (fault : Fault) :
    (t.ask r).1 = .error fault ↔
      fault = .duplicateSymbol r.name ∧ ∃ id < t.size, t.name id = r.name ∧ id ≠ t.target r := by
  have hfree : t.contains r.name = false →
      ¬ ∃ id < t.size, t.name id = r.name ∧ id ≠ t.target r := by
    rintro hname ⟨id, hid, hsame, _⟩
    rw [contains_iff.2 ⟨id, hid, hsame⟩] at hname
    cases hname
  have h := t.ask_effect r
  generalize t.ask r = asked at h ⊢
  cases h with
  | added _ hname | renamed _ _ hname =>
      constructor
      · intro hfalse
        cases hfalse
      · exact fun hused => absurd hused.2 (hfree hname)
  | kept hkind hname =>
      constructor
      · intro hfalse
        cases hfalse
      · rintro ⟨_, id, hid, hsame, hne⟩
        have hmarker : endMarker < t.size := lt_size_of_isTerminal ht.reserved.1
        refine absurd (ht.bijOn.injOn hid hmarker (hsame.trans hname.symm)) ?_
        simpa [target, hkind] using hne
  | refused hname hused =>
      obtain ⟨id, hid, hsame⟩ := contains_iff.1 hused
      have hne : id ≠ t.target r := by
        unfold target
        split
        · exact Nat.ne_of_lt hid
        · rename_i hkind
          rintro rfl
          exact hname (by simpa using hkind) hsame
      constructor
      · rintro hfault
        cases hfault
        exact ⟨rfl, id, hid, hsame, hne⟩
      · rintro ⟨rfl, _⟩
        rfl

end

end SymbolTable
end PredictiveParsing

import PredictiveParsing.Proofs.Consistency
import PredictiveParsing.Proofs.Saturation
import Mathlib.Tactic

/-!
# Names in a two-way map

A symbol table can be kept in place: the kinds of the symbols in a list, and their numbers and names
in a two-way map, where a new pair drives out every pair that has its number or its name.
`Registry` is such a table.  Requests to it are carried out step by step, and whatever one of them
has written when it fails stays written.

The registry answers as the symbol table does (`Registry.Represents.ask`): a name is looked for
before anything is written, and so no pair is ever driven out and a request that fails has written
nothing.
-/

namespace PredictiveParsing

open SymbolTable (Request)

/-- Symbols with their numbers and names in a two-way map. -/
structure Registry where
  names : List (SymbolId × String) := []
  kinds : List SymbolKind := []
deriving DecidableEq, Repr

namespace Registry

def name? (r : Registry) (id : SymbolId) : Option String :=
  r.names.lookup id

def id? (r : Registry) (name : String) : Option SymbolId :=
  (r.names.find? fun e => e.2 == name).map Prod.fst

/-- Ties a number to a name.  Every pair with the number or with the name goes. -/
def tie (r : Registry) (id : SymbolId) (name : String) : Registry :=
  { r with names := (id, name) :: r.names.filter fun e => e.1 != id && e.2 != name }

/-- Takes the name from a number. -/
def untie (r : Registry) (id : SymbolId) : Registry :=
  { r with names := r.names.filter fun e => e.1 != id }

def pushKind (r : Registry) (kind : SymbolKind) : Registry :=
  { r with kinds := r.kinds ++ [kind] }

def setKind (r : Registry) (id : SymbolId) (kind : SymbolKind) : Registry :=
  { r with kinds := r.kinds.set id kind }

/-- Changes made in place, which stay also if the rest of them fails. -/
abbrev Edit (α : Type) : Type :=
  EStateM Fault Registry α

def checkFree (name : String) : Edit Unit := do
  if ((← get).id? name).isSome then throw (.duplicateSymbol name)

def insert (name : String) (kind : SymbolKind) : Edit SymbolId := do
  let id := (← get).kinds.length
  modify (·.tie id name)
  modify (·.pushKind kind)
  return id

def register (name : String) (kind : SymbolKind) : Edit SymbolId := do
  checkFree name
  insert name kind

def setEndMarker (name : String) : Edit Unit := do
  if (← get).name? endMarker = some name then return
  checkFree name
  modify (·.untie endMarker)
  modify (·.setKind endMarker (.terminal (literalPattern name)))
  modify (·.tie endMarker name)

def carryOut : Request → Edit (Option SymbolId)
  | .terminal name pattern => do
      return some (← register name (.terminal pattern))
  | .nonterminal name => do
      return some (← register name .nonterminal)
  | .endMarker name => do
      setEndMarker name
      return none

def ask (r : Registry) (q : Request) : Except Fault (Option SymbolId) × Registry :=
  ofResult ((carryOut q).run r)

/-- The registry before any request. -/
def initial : Registry :=
  let reserved : Edit Unit := do
    let _ ← insert "$" (.terminal (literalPattern "$"))
    let _ ← insert epsilonName (.terminal epsilonName)
  (ofResult (reserved.run {})).2

section

variable {r : Registry} {t : SymbolTable} {id other : SymbolId} {name name' : String}

/-! ### What the edits come to -/

theorem run_checkFree
    (name : String) (r : Registry) :
    (checkFree name).run r =
      if (r.id? name).isSome then .error (.duplicateSymbol name) r else .ok () r := by
  change (if (r.id? name).isSome then _ else _ : Edit Unit).run r = _
  split <;> rfl

theorem run_register
    (name : String) (kind : SymbolKind) (r : Registry) :
    (register name kind).run r =
      if (r.id? name).isSome then .error (.duplicateSymbol name) r
      else .ok r.kinds.length ((r.tie r.kinds.length name).pushKind kind) := by
  rw [register, EStateM.run_bind, run_checkFree]
  by_cases hused : (r.id? name).isSome = true
  · rw [if_pos hused, if_pos hused]
  · rw [if_neg hused, if_neg hused]
    rfl

/-- What is written when the end marker gets another name. -/
def rename (r : Registry) (name : String) : Registry :=
  ((r.untie endMarker).setKind endMarker (.terminal (literalPattern name))).tie endMarker name

theorem run_setEndMarker
    (name : String) (r : Registry) :
    (setEndMarker name).run r =
      if r.name? endMarker = some name then .ok () r
      else if (r.id? name).isSome then .error (.duplicateSymbol name) r
      else .ok () (r.rename name) := by
  change (if r.name? endMarker = some name then _ else _ : Edit Unit).run r = _
  by_cases hsame : r.name? endMarker = some name
  · rw [if_pos hsame, if_pos hsame]
    rfl
  · rw [if_neg hsame, if_neg hsame, EStateM.run_bind, run_checkFree]
    by_cases hused : (r.id? name).isSome = true
    · rw [if_pos hused, if_pos hused]
    · rw [if_neg hused, if_neg hused]
      rfl

/-- What a request to a registry can come to. -/
inductive Effect (r : Registry) (q : Request) :
    Except Fault (Option SymbolId) × Registry → Prop
  | added
      {kind : SymbolKind}
      (hkind : q.kind? = some kind)
      (hfree : r.id? q.name = none) :
      Effect r q (.ok (some r.kinds.length), (r.tie r.kinds.length q.name).pushKind kind)
  | kept
      (hkind : q.kind? = none)
      (hname : r.name? endMarker = some q.name) :
      Effect r q (.ok none, r)
  | renamed
      (hkind : q.kind? = none)
      (hname : r.name? endMarker ≠ some q.name)
      (hfree : r.id? q.name = none) :
      Effect r q (.ok none, r.rename q.name)
  | refused
      (hname : q.kind? = none → r.name? endMarker ≠ some q.name)
      (hused : (r.id? q.name).isSome = true) :
      Effect r q (.error (.duplicateSymbol q.name), r)

theorem effect_register
    {q : Request} {kind : SymbolKind}
    (hkind : q.kind? = some kind) :
    Effect r q (ofResult ((do return some (← register q.name kind) : Edit _).run r)) := by
  rw [EStateM.run_bind, run_register]
  cases hname : r.id? q.name with
  | none =>
      exact .added hkind hname
  | some id =>
      refine .refused (fun hnone => ?_) (by rw [hname]; rfl)
      rw [hkind] at hnone
      cases hnone

theorem ask_effect
    (r : Registry) (q : Request) :
    Effect r q (r.ask q) := by
  cases q with
  | terminal name pattern =>
      exact effect_register rfl
  | nonterminal name =>
      exact effect_register rfl
  | endMarker name =>
      change Effect r _ (ofResult ((do setEndMarker name; return none : Edit _).run r))
      rw [EStateM.run_bind, run_setEndMarker]
      by_cases hsame : r.name? endMarker = some name
      · rw [if_pos hsame]
        exact .kept rfl hsame
      · rw [if_neg hsame]
        cases hname : r.id? name with
        | none =>
            exact .renamed rfl hsame hname
        | some id =>
            exact .refused (fun _ => hsame) (by rw [Request.name, hname]; rfl)

/-- A request that fails has written nothing. -/
theorem unchanged_of_error
    {q : Request} {fault : Fault}
    (h : (r.ask q).1 = .error fault) :
    (r.ask q).2 = r := by
  have heffect := r.ask_effect q
  generalize r.ask q = asked at h heffect ⊢
  cases heffect with
  | refused =>
      rfl
  | added | kept | renamed =>
      cases h

/-! ### A registry and a symbol table -/

@[simp] theorem mem_tie
    (r : Registry) :
    (other, name') ∈ (r.tie id name).names ↔
      (other = id ∧ name' = name) ∨ ((other, name') ∈ r.names ∧ other ≠ id ∧ name' ≠ name) := by
  simp [tie]

/-- The pairs and the kinds are those of the symbols of the table. -/
structure Represents (r : Registry) (t : SymbolTable) : Prop where
  kinds : r.kinds = t.symbols.map Symbol.kind
  names : ∀ id name, (id, name) ∈ r.names ↔ id < t.size ∧ t.name id = name

namespace Represents

theorem length_kinds
    (h : r.Represents t) :
    r.kinds.length = t.size := by
  rw [h.kinds, List.length_map, SymbolTable.size]

theorem name?_eq
    (h : r.Represents t)
    (hid : id < t.size) :
    r.name? id = some (t.name id) := by
  have hmem := (h.names id _).2 ⟨hid, rfl⟩
  cases hname : r.name? id with
  | none =>
      have hne := List.lookup_eq_none_iff.1 hname _ hmem
      simp at hne
  | some name =>
      rw [((h.names id name).1 (mem_of_lookup hname)).2]

theorem id?_eq
    (h : r.Represents t)
    (ht : t.Reachable)
    (name : String) :
    r.id? name = t.id? name := by
  have hmem : ∀ id, t.id? name = some id ↔ (id, name) ∈ r.names := fun id =>
    ht.id?_eq_some_iff.trans (h.names id name).symm
  unfold id?
  cases hfind : r.names.find? fun e => e.2 == name with
  | none =>
      cases hid : t.id? name with
      | none =>
          rfl
      | some id =>
          have hne := List.find?_eq_none.1 hfind _ ((hmem id).1 hid)
          simp at hne
  | some e =>
      obtain ⟨id, other⟩ := e
      have hname : other = name := by
        simpa using List.find?_some hfind
      subst hname
      exact ((hmem id).2 (List.mem_of_find?_eq_some hfind)).symm

theorem push
    (h : r.Represents t)
    (hfree : t.contains name = false)
    (kind : SymbolKind) :
    ((r.tie r.kinds.length name).pushKind kind).Represents (t.push name kind) where
  kinds := by
    simp [pushKind, tie, SymbolTable.push, h.kinds]
  names := by
    intro other name'
    have hother : other < t.size → t.name other ≠ name := by
      intro hlt hname
      rw [SymbolTable.contains_iff.2 ⟨other, hlt, hname⟩] at hfree
      cases hfree
    change (other, name') ∈ (r.tie r.kinds.length name).names ↔ _
    rw [mem_tie, h.names, h.length_kinds, SymbolTable.size_push, SymbolTable.name_push]
    by_cases hnew : other = t.size
    · subst hnew
      simp [eq_comm]
    · rw [if_neg hnew]
      constructor
      · rintro (⟨rfl, _⟩ | ⟨⟨hlt, rfl⟩, _⟩)
        · exact absurd rfl hnew
        · exact ⟨Nat.lt_succ_of_lt hlt, rfl⟩
      · rintro ⟨hlt, rfl⟩
        have hold : other < t.size := Nat.lt_of_le_of_ne (Nat.le_of_lt_succ hlt) hnew
        exact Or.inr ⟨⟨hold, rfl⟩, hnew, hother hold⟩

theorem rename
    (h : r.Represents t)
    (hmarker : endMarker < t.size)
    (hfree : t.contains name = false) :
    (r.rename name).Represents (t.rename name) where
  kinds := by
    simp [Registry.rename, tie, setKind, untie, SymbolTable.rename, SymbolTable.endMarkerSymbol,
      List.map_set, h.kinds]
  names := by
    intro other name'
    have hother : other < t.size → t.name other ≠ name := by
      intro hlt hname
      rw [SymbolTable.contains_iff.2 ⟨other, hlt, hname⟩] at hfree
      cases hfree
    rw [Registry.rename, mem_tie, SymbolTable.size_rename, SymbolTable.name_rename hmarker]
    simp only [setKind, untie, List.mem_filter, h.names, bne_iff_ne]
    by_cases hend : other = endMarker
    · subst hend
      simp [hmarker, eq_comm]
    · simp only [hend, false_and, false_or, if_false, ne_eq, not_false_iff, and_true, true_and]
      constructor
      · exact fun hold => hold.1
      · rintro ⟨hlt, rfl⟩
        exact ⟨⟨hlt, rfl⟩, hother hlt⟩

/-- What happens to the registry happens to the symbol table. -/
theorem effect
    (h : r.Represents t)
    (ht : t.Reachable)
    {q : Request} {asked : Except Fault (Option SymbolId) × Registry}
    (heffect : Registry.Effect r q asked) :
    ∃ t', SymbolTable.Effect t q (asked.1, t') ∧ asked.2.Represents t' := by
  have hmarker : endMarker < t.size := SymbolTable.lt_size_of_isTerminal ht.reserved.1
  have hname : r.name? endMarker = some q.name ↔ t.name endMarker = q.name := by
    rw [h.name?_eq hmarker, Option.some_inj]
  have hid : (r.id? q.name).isSome = t.contains q.name := by
    rw [h.id?_eq ht, SymbolTable.contains]
  cases heffect with
  | added hkind hfree =>
      rw [hfree] at hid
      rw [h.length_kinds]
      exact ⟨_, .added hkind hid.symm, h.length_kinds ▸ h.push hid.symm _⟩
  | kept hkind hsame =>
      exact ⟨t, .kept hkind (hname.1 hsame), h⟩
  | renamed hkind hother hfree =>
      rw [hfree] at hid
      exact ⟨_, .renamed hkind (mt hname.2 hother) hid.symm, h.rename hmarker hid.symm⟩
  | refused hother hused =>
      exact ⟨t, .refused (fun hkind => mt hname.2 (hother hkind)) (hid ▸ hused), h⟩

/-- The registry and the symbol table answer alike, and stay alike. -/
theorem ask
    (h : r.Represents t)
    (ht : t.Reachable)
    (q : Request) :
    (r.ask q).1 = (t.ask q).1 ∧ (r.ask q).2.Represents (t.ask q).2 := by
  obtain ⟨t', heffect, hafter⟩ := h.effect ht (r.ask_effect q)
  rw [(t.ask_effect q).unique heffect]
  exact ⟨rfl, hafter⟩

end Represents

theorem represents_initial :
    initial.Represents .initial where
  kinds := by
    decide
  names := by
    intro id name
    have hpairs : (id, name) ∈ initial.names ↔
        (id = epsilon ∧ name = epsilonName) ∨ (id = endMarker ∧ name = "$") := by
      simp [show initial.names = [(epsilon, epsilonName), (endMarker, "$")] by decide]
    rw [hpairs]
    constructor
    · rintro (⟨rfl, rfl⟩ | ⟨rfl, rfl⟩)
      · exact ⟨by decide, rfl⟩
      · exact ⟨by decide, rfl⟩
    · rintro ⟨hlt, rfl⟩
      rcases id with _ | _ | id
      · exact Or.inr ⟨rfl, rfl⟩
      · exact Or.inl ⟨rfl, rfl⟩
      · exact absurd (Nat.lt_of_succ_lt_succ (Nat.lt_of_succ_lt_succ hlt)) (Nat.not_lt_zero id)

/-- A whole run of requests is answered alike. -/
theorem asked
    (rs : List Request) :
    (inTurn Registry.ask initial rs).1 = (inTurn SymbolTable.ask .initial rs).1 ∧
      (inTurn Registry.ask initial rs).2.Represents (inTurn SymbolTable.ask .initial rs).2 := by
  have hrun := inTurn_related (R := fun (r : Registry) t => r.Represents t ∧ t.Reachable)
    ⟨represents_initial, .initial⟩
    (fun r t q h => ⟨(h.1.ask h.2 q).1, (h.1.ask h.2 q).2, SymbolTable.reachable_ask h.2 q⟩) rs
  exact ⟨hrun.1, hrun.2.1⟩

end

end Registry

namespace SymbolTable

/-- **The symbol table at all times.**  After any requests, with or without success, the table is
consistent.  The new symbols have got the numbers from 2 on, one after the other.  Whatever is asked
later, a symbol other than the end marker keeps its number, its name and its kind.  The next request
fails if it would give a name that is in use to a second symbol, and for no other reason, and then
it changes nothing.  All this is so as well when the table is kept in place: the registry has given
the same answers, its pairs and kinds are those of the table, and a request to it that fails has
written nothing. -/
theorem always_consistent
    (rs : List Request) :
    ∃ answers t r,
      inTurn ask .initial rs = (answers, t) ∧
      inTurn Registry.ask .initial rs = (answers, r) ∧
      t.Consistent ∧
      r.Represents t ∧
      newIds answers = List.range' 2 (t.size - 2) ∧
      (∀ later, ∀ id < t.size, id ≠ endMarker →
        (inTurn ask t later).2.id? (t.name id) = some id ∧
        (inTurn ask t later).2.name id = t.name id ∧
        (inTurn ask t later).2.kind? id = t.kind? id) ∧
      (∀ q fault, (t.ask q).1 = .error fault ↔
        fault = .duplicateSymbol q.name ∧ ∃ id < t.size, t.name id = q.name ∧ id ≠ t.target q) ∧
      (∀ q fault, (t.ask q).1 = .error fault → (t.ask q).2 = t) ∧
      (∀ q fault, (r.ask q).1 = .error fault → (r.ask q).2 = r) := by
  obtain ⟨hanswers, hrepresents⟩ := Registry.asked rs
  have ht : (inTurn ask .initial rs).2.Reachable := Reachable.initial.asked rs
  obtain ⟨n, hsize, hids⟩ := newIds_asked .initial rs
  refine ⟨_, _, (inTurn Registry.ask .initial rs).2, rfl, Prod.ext hanswers rfl, ht.consistent,
    hrepresents, ?_, fun later id hid hne => ?_, ht.ask_eq_error_iff, fun q fault => ?_,
    fun q fault => Registry.unchanged_of_error⟩
  · have htwo : initial.size = 2 := rfl
    rw [hids, hsize, htwo, Nat.add_sub_cancel_left]
  · obtain ⟨hlt, hsame⟩ := symbol_asked hid hne later
    have hname : (inTurn ask (inTurn ask .initial rs).2 later).2.name id =
        (inTurn ask .initial rs).2.name id := by
      simp only [SymbolTable.name, hsame]
    refine ⟨(ht.asked later).id?_eq_some_iff.2 ⟨hlt, hname⟩, hname, ?_⟩
    rw [kind?, kind?, hsame]
  · exact unchanged_of_answered

/-- The end marker gets another name, and a non-terminal gets the one that is free then, for good.
The requests for a name in use, the fourth and the last, fail and take up no number. -/
theorem always_consistent_renamed :
    ∃ answers t,
      inTurn ask .initial [.terminal "a" "b+", .endMarker "EOF", .nonterminal "$", .endMarker "a",
        .terminal "EPSILON" ""] = (answers, t) ∧
      newIds answers = [2, 3] ∧
      (∀ later, (inTurn ask t later).2.id? "$" = some 3) ∧
      (t.ask (.nonterminal "EOF")).1 = .error (.duplicateSymbol "EOF") := by
  obtain ⟨answers, t, _, hrun, _, _, _, hids, hlater, hfails, _⟩ := always_consistent
    [.terminal "a" "b+", .endMarker "EOF", .nonterminal "$", .endMarker "a", .terminal "EPSILON" ""]
  have ht : (inTurn ask .initial [.terminal "a" "b+", .endMarker "EOF", .nonterminal "$",
      .endMarker "a", .terminal "EPSILON" ""]).2 =
      { symbols := [endMarkerSymbol "EOF", ⟨epsilonName, .terminal epsilonName⟩,
        ⟨"a", .terminal "b+"⟩, ⟨"$", .nonterminal⟩] } := by
    decide
  rw [hrun] at ht
  obtain rfl : t = _ := ht
  refine ⟨_, _, hrun, hids, fun later => ?_, ?_⟩
  · exact (hlater later 3 (by decide) (by decide)).1
  · exact (hfails _ _).2 ⟨rfl, endMarker, by decide, rfl, by decide⟩

end SymbolTable
end PredictiveParsing

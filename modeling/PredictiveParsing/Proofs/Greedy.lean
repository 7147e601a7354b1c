import PredictiveParsing.Proofs.Splitting
import PredictiveParsing.Proofs.Tiling
import Mathlib.Tactic

/-!
# Splitting takes the longest name everywhere

A greedy walk goes through a text from the left, over the longest name that begins what is left each
time (`SymbolTable.GreedyWalk`).  It may go on as long as some name that is not empty begins what is
left, so it ends with nothing left, or it is `Stuck`.

Splitting is this walk.  It gives the symbols of a walk through the whole text, or the residue of a
walk that got stuck (`SymbolTable.splitFrom_eq_ok`, `SymbolTable.splitFrom_eq_error`), and any two walks
that cannot go on have the same residue (`SymbolTable.GreedyWalk.unique`).
-/

namespace PredictiveParsing

open Text

namespace SymbolTable

section

variable {t : SymbolTable} {text rest residue residue' : List Char} {id id' : SymbolId}
  {ids ids' : List SymbolId}

/-- A symbol whose name begins a text, where no name that begins it is longer, and which is not the
symbol of the empty name. -/
structure LongestAt (t : SymbolTable) (text : List Char) (id : SymbolId) : Prop where
  lt_size : id < t.size
  ne_empty : t.name id ≠ ""
  begins : (t.name id).toList <+: text
  longest : ∀ other < t.size, (t.name other).toList <+: text →
    (t.name other).toList.length ≤ (t.name id).toList.length

/-- Something is left of a text, and no name begins it but the empty one. -/
structure Stuck (t : SymbolTable) (residue : List Char) : Prop where
  ne_nil : residue ≠ []
  not_begins : ∀ id < t.size, t.name id ≠ "" → ¬ (t.name id).toList <+: residue

/-- The names of some symbols side by side take up a text up to its residue, and each of them is the
longest where it begins. -/
structure GreedyWalk (t : SymbolTable) (text : List Char) (ids : List SymbolId)
    (residue : List Char) : Prop where
  spelled_append : t.spelled ids ++ residue = text
  longestAt : ∀ before id after, ids = before ++ id :: after →
    t.LongestAt (t.spelled (id :: after) ++ residue) id

/-! ### The longest name -/

theorem le_of_longest
    {cs : List (SymbolId × Nat)} {c d : SymbolId × Nat}
    (h : longest cs = some c)
    (hd : d ∈ cs) :
    d.2 ≤ c.2 := by
  induction cs generalizing c with
  | nil =>
      cases hd
  | cons e cs ih =>
      have hne : d ∈ cs → longest cs ≠ none := fun hd => longest_ne_none (List.ne_nil_of_mem hd)
      rw [longest] at h
      cases hlongest : longest cs with
      | none =>
          rw [hlongest] at h
          cases h
          rcases List.mem_cons.1 hd with rfl | hd
          · exact Nat.le_refl _
          · exact absurd hlongest (hne hd)
      | some f =>
          simp only [hlongest] at h
          split at h <;> cases h <;> rcases List.mem_cons.1 hd with rfl | hd
          · omega
          · exact ih hlongest hd
          · exact Nat.le_refl _
          · have hle := ih hlongest hd
            omega

theorem longestAt_of_longestName?
    {length : Nat}
    (h : t.longestName? text = some (id, length)) :
    t.LongestAt text id ∧ length = (t.name id).toList.length := by
  obtain ⟨hid, hne, hbegins, hlength⟩ := mem_candidates.1 (mem_of_longest h)
  refine ⟨⟨hid, hne, hbegins, fun other hother hprefix => ?_⟩, hlength⟩
  by_cases hempty : t.name other = ""
  · simp [hempty]
  · have hmem : (other, (t.name other).toList.length) ∈ t.candidates text :=
      mem_candidates.2 ⟨hother, hempty, hprefix, rfl⟩
    exact (le_of_longest h hmem).trans hlength.le

theorem stuck_of_longestName?
    (h : t.longestName? text = none)
    (hne : text ≠ []) :
    t.Stuck text := by
  refine ⟨hne, fun id hid hempty hprefix => ?_⟩
  have hmem : (id, (t.name id).toList.length) ∈ t.candidates text :=
    mem_candidates.2 ⟨hid, hempty, hprefix, rfl⟩
  exact longest_ne_none (List.ne_nil_of_mem hmem) h

theorem LongestAt.name_eq
    (h : t.LongestAt text id)
    (h' : t.LongestAt text id') :
    t.name id = t.name id' := by
  have hlength : (t.name id).toList.length = (t.name id').toList.length :=
    Nat.le_antisymm (h'.longest id h.lt_size h.begins) (h.longest id' h'.lt_size h'.begins)
  have hbegins := List.prefix_of_prefix_length_le h.begins h'.begins hlength.le
  exact String.toList_injective (hbegins.eq_of_length hlength)

theorem LongestAt.ne_nil
    (h : t.LongestAt text id) :
    text ≠ [] := by
  rintro rfl
  exact h.ne_empty (String.toList_eq_nil_iff.1 (List.prefix_nil.1 h.begins))

/-! ### Walks -/

theorem spelled_cons
    (t : SymbolTable) (id : SymbolId) (ids : List SymbolId) :
    t.spelled (id :: ids) = (t.name id).toList ++ t.spelled ids :=
  List.flatMap_cons

theorem greedyWalk_nil_iff :
    t.GreedyWalk text [] residue ↔ residue = text := by
  constructor
  · exact fun h => h.spelled_append
  · rintro rfl
    exact ⟨rfl, fun before id after h => by simp at h⟩

theorem greedyWalk_cons_iff :
    t.GreedyWalk text (id :: ids) residue ↔
      t.LongestAt text id ∧
        ∃ rest, (t.name id).toList ++ rest = text ∧ t.GreedyWalk rest ids residue := by
  constructor
  · intro h
    have hfirst := h.longestAt [] id ids rfl
    rw [h.spelled_append] at hfirst
    refine ⟨hfirst, t.spelled ids ++ residue, ?_, rfl, fun before id' after hids => ?_⟩
    · rw [← List.append_assoc, ← spelled_cons, h.spelled_append]
    · exact h.longestAt (id :: before) id' after (by rw [hids, List.cons_append])
  · rintro ⟨hfirst, rest, rfl, h⟩
    have htext : t.spelled (id :: ids) ++ residue = (t.name id).toList ++ rest := by
      rw [spelled_cons, List.append_assoc, h.spelled_append]
    refine ⟨htext, fun before id' after hids => ?_⟩
    cases before with
    | nil =>
        obtain ⟨rfl, rfl⟩ := List.cons_eq_cons.1 hids
        rwa [htext]
    | cons first before =>
        exact h.longestAt before id' after (List.cons_eq_cons.1 hids).2

/-- Walks through a text that cannot go on have come equally far, and over the same symbols if no two
symbols have one name. -/
theorem GreedyWalk.unique
    (h : t.GreedyWalk text ids residue)
    (h' : t.GreedyWalk text ids' residue')
    (hend : residue = [] ∨ t.Stuck residue)
    (hend' : residue' = [] ∨ t.Stuck residue') :
    residue = residue' ∧ (t.Reachable → ids = ids') := by
  have hstop : ∀ {residue id}, residue = [] ∨ t.Stuck residue → ¬ t.LongestAt residue id := by
    rintro residue id (rfl | hstuck) hlongest
    · exact hlongest.ne_nil rfl
    · exact hstuck.not_begins id hlongest.lt_size hlongest.ne_empty hlongest.begins
  induction ids generalizing text ids' with
  | nil =>
      obtain rfl := greedyWalk_nil_iff.1 h
      cases ids' with
      | nil =>
          exact ⟨(greedyWalk_nil_iff.1 h').symm, fun _ => rfl⟩
      | cons id' ids' =>
          exact absurd (greedyWalk_cons_iff.1 h').1 (hstop hend)
  | cons id ids ih =>
      obtain ⟨hlongest, rest, hrest, hwalk⟩ := greedyWalk_cons_iff.1 h
      cases ids' with
      | nil =>
          obtain rfl := greedyWalk_nil_iff.1 h'
          exact absurd hlongest (hstop hend')
      | cons id' ids' =>
          obtain ⟨hlongest', rest', hrest', hwalk'⟩ := greedyWalk_cons_iff.1 h'
          have hname := hlongest.name_eq hlongest'
          have hsame : rest = rest' := by
            rw [hname, ← hrest'] at hrest
            exact List.append_cancel_left hrest
          subst hsame
          obtain ⟨hresidue, hids⟩ := ih hwalk hwalk'
          refine ⟨hresidue, fun ht => ?_⟩
          rw [ht.eq_of_name_eq hlongest.lt_size hlongest'.lt_size hname, hids ht]

/-! ### Splitting is the walk -/

/-- What is split behind the longest name is what comes after it. -/
theorem drop_of_longestName?
    {c : Char} {length : Nat}
    (h : t.longestName? (c :: text) = some (id, length)) :
    t.LongestAt (c :: text) id ∧ (t.name id).toList ++ text.drop (length - 1) = c :: text := by
  obtain ⟨hlongest, rfl⟩ := longestAt_of_longestName? h
  refine ⟨hlongest, ?_⟩
  obtain ⟨rest, hrest⟩ := hlongest.begins
  cases hname : (t.name id).toList with
  | nil =>
      exact absurd (String.toList_eq_nil_iff.1 hname) hlongest.ne_empty
  | cons d name =>
      rw [hname, List.cons_append] at hrest
      obtain ⟨rfl, rfl⟩ := List.cons_eq_cons.1 hrest
      simp

theorem splitFrom_eq_ok
    (h : t.splitFrom text = .ok ids) :
    t.GreedyWalk text ids [] := by
  fun_induction splitFrom t text generalizing ids with
  | case1 =>
      cases h
      exact greedyWalk_nil_iff.2 rfl
  | case2 =>
      cases h
  | case3 c rest id length hfound tail htail ih =>
      cases h
      obtain ⟨hlongest, hrest⟩ := drop_of_longestName? hfound
      exact greedyWalk_cons_iff.2 ⟨hlongest, _, hrest, ih htail⟩
  | case4 =>
      cases h

theorem splitFrom_eq_error
    (h : t.splitFrom text = .error residue) :
    ∃ ids, t.GreedyWalk text ids residue ∧ t.Stuck residue := by
  fun_induction splitFrom t text with
  | case1 =>
      cases h
  | case2 c rest hfound =>
      cases h
      exact ⟨[], greedyWalk_nil_iff.2 rfl, stuck_of_longestName? hfound (List.cons_ne_nil _ _)⟩
  | case3 =>
      cases h
  | case4 c rest id length hfound stop htail ih =>
      cases h
      obtain ⟨hlongest, hrest⟩ := drop_of_longestName? hfound
      obtain ⟨ids, hwalk, hstuck⟩ := ih htail
      exact ⟨id :: ids, greedyWalk_cons_iff.2 ⟨hlongest, _, hrest, hwalk⟩, hstuck⟩

theorem splitFrom_eq_error_iff :
    t.splitFrom text = .error residue ↔ ∃ ids, t.GreedyWalk text ids residue ∧ t.Stuck residue := by
  refine ⟨splitFrom_eq_error, ?_⟩
  rintro ⟨ids, hwalk, hstuck⟩
  cases hsplit : t.splitFrom text with
  | ok ids' =>
      have hsame := hwalk.unique (splitFrom_eq_ok hsplit) (Or.inr hstuck) (Or.inl rfl)
      exact absurd hsame.1 hstuck.ne_nil
  | error residue' =>
      obtain ⟨_, hwalk', hstuck'⟩ := splitFrom_eq_error hsplit
      rw [(hwalk.unique hwalk' (Or.inr hstuck) (Or.inr hstuck')).1]

theorem splitFrom_eq_ok_iff
    (ht : t.Reachable) :
    t.splitFrom text = .ok ids ↔ t.GreedyWalk text ids [] := by
  refine ⟨splitFrom_eq_ok, fun hwalk => ?_⟩
  cases hsplit : t.splitFrom text with
  | ok ids' =>
      rw [(hwalk.unique (splitFrom_eq_ok hsplit) (Or.inl rfl) (Or.inl rfl)).2 ht]
  | error residue =>
      obtain ⟨_, hwalk', hstuck⟩ := splitFrom_eq_error hsplit
      have hsame := hwalk.unique hwalk' (Or.inl rfl) (Or.inr hstuck)
      exact absurd hsame.1.symm hstuck.ne_nil

theorem split_eq
    {s : String}
    (hne : s ≠ "")
    (heps : s ≠ epsilonName) :
    t.split s =
      (t.splitFrom s.toList).mapError fun residue => .unsplittable s (String.ofList residue) := by
  rw [split, if_neg (not_or.2 ⟨hne, heps⟩)]
  cases t.splitFrom s.toList <;> rfl

end

/-- **Splitting is greedy.**  Let a text be neither empty nor the word for the empty text.  The symbols
that it is split into are not none, their names side by side are the text, and each is the longest name
where it begins; in a table that requests have made, they are the only symbols of which this is true.
The text cannot be split if and only if the greedy walk through it gets stuck.  The fault then shows
the text and the residue of that walk, which takes up whole characters at its end. -/
theorem split_is_greedy
    (t : SymbolTable) {text : String}
    (hne : text ≠ "")
    (heps : text ≠ epsilonName) :
    (∀ ids, t.split text = .ok ids →
      ids ≠ [] ∧ t.spelled ids = text.toList ∧
        ∀ before id after, ids = before ++ id :: after → t.LongestAt (t.spelled (id :: after)) id) ∧
    (t.Reachable → ∀ ids, t.split text = .ok ids ↔ t.GreedyWalk text.toList ids []) ∧
    ∀ fault, t.split text = .error fault ↔
      ∃ ids residue, fault = .unsplittable text (String.ofList residue) ∧
        t.GreedyWalk text.toList ids residue ∧ t.Stuck residue ∧
        takeBytes? (byteCount text.toList - byteCount residue) text.toList =
          some (t.spelled ids) := by
  have hok : ∀ ids, t.split text = .ok ids ↔ t.splitFrom text.toList = .ok ids := by
    intro ids
    rw [split_eq hne heps]
    cases t.splitFrom text.toList <;> simp [Except.mapError]
  refine ⟨fun ids h => ?_, fun ht ids => (hok ids).trans (splitFrom_eq_ok_iff ht), fun fault => ?_⟩
  · have hwalk := splitFrom_eq_ok ((hok ids).1 h)
    have hspelled := hwalk.spelled_append
    rw [List.append_nil] at hspelled
    refine ⟨split_ne_nil h, hspelled, fun before id after hids => ?_⟩
    have hlongest := hwalk.longestAt before id after hids
    rwa [List.append_nil] at hlongest
  · rw [split_eq hne heps]
    constructor
    · intro h
      cases hsplit : t.splitFrom text.toList with
      | ok ids =>
          rw [hsplit] at h
          cases h
      | error residue =>
          rw [hsplit] at h
          cases h
          obtain ⟨ids, hwalk, hstuck⟩ := splitFrom_eq_error hsplit
          refine ⟨ids, residue, rfl, hwalk, hstuck, ?_⟩
          rw [← hwalk.spelled_append, byteCount_append, Nat.add_sub_cancel, takeBytes?_append]
    · rintro ⟨ids, residue, rfl, hwalk, hstuck, _⟩
      rw [splitFrom_eq_error_iff.2 ⟨ids, hwalk, hstuck⟩]
      rfl

/-- Symbols with the numbers 2 `AB`, 3 `ABCD`, 4 `C`, 5 `é` and 6 the empty name. -/
def gapped : SymbolTable :=
  (inTurn ask .initial [.nonterminal "AB", .nonterminal "ABCD", .terminal "C" "c", .terminal "é" "é",
    .nonterminal ""]).2

/-- The longest name lies beyond a beginning that is no name.  A text with a residue behind a letter
of two bytes cannot be split, though the empty name is a name. -/
theorem split_is_greedy_gapped :
    (gapped.split "ABCDCé" = .ok [3, 4, 5] ∧
      gapped.spelled [3, 4, 5] = "ABCDCé".toList ∧ gapped.LongestAt "ABCDCé".toList 3) ∧
    ∃ ids residue, Fault.unsplittable "ABéD" "D" = .unsplittable "ABéD" (String.ofList residue) ∧
      gapped.GreedyWalk "ABéD".toList ids residue ∧ gapped.Stuck residue ∧
      takeBytes? (byteCount "ABéD".toList - byteCount residue) "ABéD".toList =
        some (gapped.spelled ids) := by
  have hok : gapped.split "ABCDCé" = .ok [3, 4, 5] := by cbv
  have herror : gapped.split "ABéD" = .error (.unsplittable "ABéD" "D") := by cbv
  obtain ⟨hwhole, _⟩ := @split_is_greedy gapped "ABCDCé" (by decide) (by decide)
  obtain ⟨_, _, hstuck⟩ := @split_is_greedy gapped "ABéD" (by decide) (by decide)
  obtain ⟨_, hspelled, hlongest⟩ := hwhole _ hok
  have hfirst := hlongest [] 3 [4, 5] rfl
  rw [hspelled] at hfirst
  exact ⟨⟨hok, hspelled, hfirst⟩, (hstuck _).1 herror⟩

end SymbolTable
end PredictiveParsing

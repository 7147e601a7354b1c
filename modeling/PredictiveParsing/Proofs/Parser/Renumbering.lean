import PredictiveParsing.Outcome
import PredictiveParsing.Proofs.Parser.Step
import PredictiveParsing.Proofs.Reordering
import Mathlib.Tactic

/-!
# Parsing with the rules in another order

When the productions of a grammar change their places, the cells of its table do so with them, and a
parser takes the same steps: the two runs differ in the numbers of the productions that they report,
and in nothing else (`Parser.runFrom_renumber`).
-/

namespace PredictiveParsing

/-- The same event, with the number of a production changed. -/
def Event.renumber (place : Nat → Nat) : Event → Event
  | .expanded ix => .expanded (place ix)
  | e => e

/-- The same change of places, one place later; the first place is kept. -/
def laterPlaces (place : Equiv.Perm Nat) : Equiv.Perm Nat where
  toFun
    | 0 => 0
    | ix + 1 => place ix + 1
  invFun
    | 0 => 0
    | ix + 1 => place.symm ix + 1
  left_inv := by
    rintro (_ | ix) <;> simp
  right_inv := by
    rintro (_ | ix) <;> simp

/-- Lists with the same members in another order have them at places that correspond. -/
theorem exists_place_of_perm
    {α : Type} {xs ys : List α}
    (h : xs.Perm ys) :
    ∃ place : Equiv.Perm Nat, ∀ ix, ys[place ix]? = xs[ix]? := by
  induction h with
  | nil =>
      exact ⟨1, fun _ => rfl⟩
  | @cons x xs ys _ ih =>
      obtain ⟨place, hplace⟩ := ih
      refine ⟨laterPlaces place, fun ix => ?_⟩
      cases ix with
      | zero =>
          rfl
      | succ ix =>
          exact hplace ix
  | swap x y xs =>
      refine ⟨Equiv.swap 0 1, fun ix => ?_⟩
      rcases ix with _ | _ | ix
      · rfl
      · rfl
      · rw [Equiv.swap_apply_of_ne_of_ne (by omega) (by omega)]
        rfl
  | trans _ _ ih ih' =>
      obtain ⟨place, hplace⟩ := ih
      obtain ⟨place', hplace'⟩ := ih'
      exact ⟨place.trans place', fun ix => (hplace' _).trans (hplace ix)⟩

namespace Parser

section

variable {σ ε : Type} {src : Source σ ε} {g g' : Grammar} {t t' : Table} {p q : Parser σ}
  {place : Nat → Nat}

/-- The same run, with the numbers of the productions changed. -/
def Run.renumber (place : Nat → Nat) (r : Run σ ε) : Run σ ε :=
  { r with events := r.events.map (Event.renumber place) }

/-- The cells of the one table hold the productions of the other, at their new places. -/
structure Renumbered (g g' : Grammar) (t t' : Table) (place : Nat → Nat) : Prop where
  reordered : g.Reordered g'
  fits : t.Fits g
  place_eq : ∀ ix p, g.productions[ix]? = some p → g'.productions[place ix]? = some p
  get?_eq : ∀ nt terminal, t'.get? nt terminal = (t.get? nt terminal).map place

theorem Reduction.renumber
    (h : Renumbered g g' t t' place)
    {a top : SymbolId} {rest : List SymbolId} {events : List Event}
    (hreduction : Reduction g t a top rest p events q) :
    Reduction g' t' a top rest p (events.map (Event.renumber place)) q := by
  have hkind := h.reordered.isTerminal top
  cases hreduction with
  | dropped htop =>
      exact .dropped htop
  | matched htop hterm ha =>
      exact .matched htop (hkind.trans hterm) ha
  | mismatched htop hterm ha =>
      exact .mismatched htop (hkind.trans hterm) ha
  | cycled htop hterm hopen =>
      exact .cycled htop (hkind.trans hterm) hopen
  | @expanded htop hterm hfresh ix hcell =>
      obtain ⟨production, hix, _⟩ := h.fits top a ix hcell
      have hcell' : t'.get? top a = some (place ix) := by
        rw [h.get?_eq, hcell]
        rfl
      have hexpanded := Reduction.expanded (g := g') htop (hkind.trans hterm) hfresh hcell'
      rw [h.place_eq ix production hix] at hexpanded
      rw [hix]
      exact hexpanded
  | vanished htop hterm hfresh hcell hempty =>
      have hcell' : t'.get? top a = none := by
        rw [h.get?_eq, hcell]
        rfl
      exact .vanished htop (hkind.trans hterm) hfresh hcell'
        ((h.reordered.hasEmptyProduction top).trans hempty)
  | stuck htop hterm hfresh hcell hempty =>
      have hcell' : t'.get? top a = none := by
        rw [h.get?_eq, hcell]
        rfl
      exact .stuck htop (hkind.trans hterm) hfresh hcell'
        ((h.reordered.hasEmptyProduction top).trans hempty)

theorem Transition.renumber
    (h : Renumbered g g' t t' place)
    {r : Except ε (List Event)}
    (htransition : Transition src g t p r q) :
    Transition src g' t' p (r.map (List.map (Event.renumber place))) q := by
  cases htransition with
  | idle hrun =>
      exact .idle hrun
  | unread hrun hpeeking =>
      exact .unread hrun hpeeking
  | finished hrun hpeeking hstack hclosing =>
      have hsame : r.map (List.map (Event.renumber place)) = r := by
        cases hclosing <;> rfl
      rw [hsame]
      exact .finished hrun hpeeking hstack hclosing
  | reduced hrun hpeeking hstack hreduction =>
      exact .reduced hrun hpeeking hstack (hreduction.renumber h)

theorem runFrom_renumber
    (h : Renumbered g g' t t' place)
    (src : Source σ ε) (limit : Nat) (events : List Event) (p : Parser σ) :
    runFrom src g' t' limit (events.map (Event.renumber place)) p =
      (runFrom src g t limit events p).renumber place := by
  induction limit generalizing events p with
  | zero =>
      rfl
  | succ limit ih =>
      have hstep := ((step_spec src g t p).renumber h).eq
      unfold runFrom
      split
      · rfl
      · rw [hstep]
        rcases p.step src g t with ⟨e | new, q⟩
        · rfl
        · have hrest := ih (new.reverse ++ events) q
          rw [List.map_append, List.map_reverse] at hrest
          exact hrest

theorem start_reordered
    (h : g.Reordered g')
    (s : σ) (historyLimit : Nat) :
    Parser.start g' s historyLimit = Parser.start g s historyLimit := by
  simp only [Parser.start, h.start]

theorem outcome?_renumber
    (h : g.Reordered g')
    (r : Run σ ε) :
    (r.renumber place).outcome? g' = r.outcome? g := by
  have hname : g'.name = g.name := by
    funext id
    simp only [Grammar.name, h.symbols]
  simp only [Run.outcome?, Run.renumber, outcome, hname, h.symbols]

end

end Parser

namespace Table

/-- **The order of the rules does not matter.**  Two grammars that differ only in the order of their
productions have the same sets.  They have no table for the same reason, or equally many conflicts, or
tables with the same productions in the cells, at the places to which they have moved.  In the last
case every run over the one is a run over the other, step for step, and so every input has the same
outcome. -/
theorem rule_order_irrelevant
    {g g' : Grammar}
    (hg : g.WellFormed)
    (h : g.Reordered g') :
    FirstFollow.ofGrammar g' = FirstFollow.ofGrammar g ∧
    (∀ fault, ofGrammar g = .error (.fault fault) → ofGrammar g' = .error (.fault fault)) ∧
    (∀ conflicts, ofGrammar g = .error (.conflicts conflicts) →
      ∃ conflicts', ofGrammar g' = .error (.conflicts conflicts') ∧
        conflicts'.length = conflicts.length) ∧
    (∃ place : Equiv.Perm Nat, ∀ ix, g'.productions[place ix]? = g.productions[ix]?) ∧
    ∀ t, ofGrammar g = .ok t → ∃ t', ofGrammar g' = .ok t' ∧
      (∀ place : Nat → Nat,
        (∀ ix p, g.productions[ix]? = some p → g'.productions[place ix]? = some p) →
        (∀ nt terminal, t'.get? nt terminal = (t.get? nt terminal).map place) ∧
        ∀ (σ ε : Type) (src : Source σ ε) (s : σ) (historyLimit limit : Nat),
          (Parser.start g' s historyLimit).run src g' t' limit =
            ((Parser.start g s historyLimit).run src g t limit).renumber place) ∧
      ∀ (σ ε : Type) (src : Source σ ε) (s : σ) (historyLimit limit : Nat),
        ((Parser.start g' s historyLimit).run src g' t' limit).outcome? g' =
          ((Parser.start g s historyLimit).run src g t limit).outcome? g := by
  obtain ⟨place, hplace⟩ := exists_place_of_perm h.perm
  refine ⟨h.firstFollow hg, fun _ => h.table_fault hg, fun _ => h.table_conflicts hg,
    ⟨place, hplace⟩, fun t ht => ?_⟩
  obtain ⟨sets, t', htable, htable', ht'⟩ := h.table_ok hg ht
  have hrenumbered : ∀ place : Nat → Nat,
      (∀ ix p, g.productions[ix]? = some p → g'.productions[place ix]? = some p) →
      Parser.Renumbered g g' t t' place := fun place hplace =>
    ⟨h, fits_of_ofSets htable, hplace, h.get?_eq htable htable' hplace⟩
  refine ⟨t', ht', fun place hplace => ⟨(hrenumbered place hplace).get?_eq, ?_⟩, ?_⟩
  · intro σ ε src s historyLimit limit
    rw [Parser.start_reordered h]
    exact Parser.runFrom_renumber (hrenumbered place hplace) src limit [] _
  · intro σ ε src s historyLimit limit
    have hkept := hrenumbered place fun ix p hp => (hplace ix).trans hp
    have hrun := Parser.runFrom_renumber hkept src limit [] (Parser.start g s historyLimit)
    rw [Parser.start_reordered h]
    exact (congrArg (Parser.Run.outcome? g') hrun).trans (Parser.outcome?_renumber h _)

/-- The rules for sums the other way round: their table has the same productions, counted from the
end. -/
theorem rule_order_irrelevant_sums :
    ∃ t', ofGrammar { Grammar.sums with productions := Grammar.sums.productions.reverse } =
        .ok t' ∧
      ∀ nt terminal, t'.get? nt terminal = (sums.get? nt terminal).map (3 - ·) := by
  have h : Grammar.sums.Reordered
      { Grammar.sums with productions := Grammar.sums.productions.reverse } :=
    ⟨rfl, rfl, (List.reverse_perm _).symm⟩
  obtain ⟨_, _, _, _, htables⟩ := rule_order_irrelevant Grammar.reachable_sums.wellFormed h
  obtain ⟨t', ht', hplaces, _⟩ := htables sums ofGrammar_sums
  refine ⟨t', ht', (hplaces (3 - ·) fun ix p hp => ?_).1⟩
  rcases ix with _ | _ | _ | _ | ix
  · exact hp
  · exact hp
  · exact hp
  · exact hp
  · cases hp

end Table
end PredictiveParsing

import PredictiveParsing.Proofs.Extension
import PredictiveParsing.Proofs.Prediction
import Mathlib.Tactic

/-!
# FIRST and FOLLOW that clash

A non-terminal that may vanish has a clash when some terminal can begin it and can follow it as well:
with that terminal next, it may vanish or go on.  Then there is no table
(`Table.conflicts_of_clash`).  The two claims need not meet in the cell of the non-terminal itself,
for a single production of it may be the reason for both of them.  They meet further down.

The proof does not look for the place.  With a table, quiet steps are a function of the stack and the
token, and they follow every spelling that shows the token (`Table.quiet_of_shown`).  So two
spellings of one stack that show the same token begin alike (`Table.head?_eq_of_shown`), and one that
emits the token cannot stand beside one that emits nothing.
-/

namespace PredictiveParsing
namespace Table

section

variable {g : Grammar} {sets : FirstFollow} {ends : SymbolId → Prop} {t : Table} {S a : SymbolId}
  {stack word word' rest rest' : List SymbolId}

/-- The next terminal on top of a stack, or nothing at all, leaves the parser nothing to do. -/
theorem not_quiet_of_head?
    (hterm : ∀ top ∈ stack.head?, g.isTerminal top = true ∧ top ≠ epsilon) :
    ¬ t.Quiet g a stack rest := by
  intro hquiet
  cases hquiet with
  | dropped =>
      exact (hterm epsilon rfl).2 rfl
  | expanded _ hnonterm | vanished _ hnonterm =>
      rw [(hterm _ rfl).1] at hnonterm
      cases hnonterm

/-- Quiet steps follow a spelling that shows the next terminal: they bring to the top what the
spelling emits first, or take all of the stack away if it emits nothing. -/
theorem quiet_of_shown
    (hg : g.WellFormed)
    (htable : Table.ofSets g sets = .ok t)
    (hfirst : g.FirstClosed sets.first)
    (hfollow : g.FollowClosed sets.first sets.follow)
    (hspells : g.Spells stack word rest)
    (hcovers : g.Covers sets.first sets.follow ends stack)
    (hnext : Grammar.ShowsNext ends word rest a) :
    ∃ bottom, Relation.ReflTransGen (t.Quiet g a) stack bottom ∧
      bottom.head? = word.head? ∧
      ∀ top ∈ bottom.head?, g.isTerminal top = true ∧ top ≠ epsilon := by
  induction hspells with
  | done stack =>
      rcases hnext with hhead | ⟨_, rfl, _⟩
      · cases hhead
      · exact ⟨[], .refl, rfl, by simp⟩
  | drop _ ih =>
      obtain ⟨bottom, hquiet, hbottom⟩ := ih hcovers.2 hnext
      exact ⟨bottom, .head (.dropped _) hquiet, hbottom⟩
  | @emit top stack _ _ heps hterm _ _ =>
      exact ⟨top :: stack, .refl, rfl, by simp [heps, hterm]⟩
  | expand hp hspells ih =>
      have hlhs := hg.lhs_nonterminal _ hp
      obtain ⟨bottom, hquiet, hbottom⟩ := ih (hcovers.expand hlhs (hfollow _ hp)) hnext
      exact ⟨bottom, .head (quiet_of_shown_expand hg htable hfirst hp hspells hcovers hnext) hquiet,
        hbottom⟩

/-- Two spellings of a stack that show the same next terminal begin alike. -/
theorem head?_eq_of_shown
    (hg : g.WellFormed)
    (htable : Table.ofSets g sets = .ok t)
    (hfirst : g.FirstClosed sets.first)
    (hfollow : g.FollowClosed sets.first sets.follow)
    (hcovers : g.Covers sets.first sets.follow ends stack)
    (hspells : g.Spells stack word rest)
    (hnext : Grammar.ShowsNext ends word rest a)
    (hspells' : g.Spells stack word' rest')
    (hnext' : Grammar.ShowsNext ends word' rest' a) :
    word.head? = word'.head? := by
  obtain ⟨bottom, hquiet, hhead, hterm⟩ :=
    quiet_of_shown hg htable hfirst hfollow hspells hcovers hnext
  obtain ⟨bottom', hquiet', hhead', hterm'⟩ :=
    quiet_of_shown hg htable hfirst hfollow hspells' hcovers hnext'
  have hunique : Relator.RightUnique (t.Quiet g a) := fun _ _ _ h h' => h.unique h'
  -- both are at rest, and the steps of the one are the first steps of the other
  have hsame : bottom = bottom' := by
    rcases hquiet.total_of_right_unique hunique hquiet' with h | h
    · rcases h.cases_head with heq | ⟨_, hstep, _⟩
      · exact heq
      · exact absurd hstep (not_quiet_of_head? hterm)
    · rcases h.cases_head with heq | ⟨_, hstep, _⟩
      · exact heq.symm
      · exact absurd hstep (not_quiet_of_head? hterm')
  rw [← hhead, ← hhead', hsame]

/-- **A clash of FIRST and FOLLOW is never missed.**  A grammar with a start symbol has its sets.  If a
non-terminal may vanish by them and a terminal is in both of its sets, the table has conflicts, also
when one production of the non-terminal begins with the terminal and may vanish. -/
theorem conflicts_of_clash
    (hg : g.Reachable)
    (hstart : g.start = .ok S) :
    ∃ sets, FirstFollow.ofGrammar g = .ok sets ∧
      ∀ A, epsilon ∈ sets.first.get A →
        ∀ a, a ≠ epsilon → a ∈ sets.first.get A → a ∈ sets.follow.get A →
          ∃ conflicts, conflicts ≠ [] ∧ Table.ofGrammar g = .error (.conflicts conflicts) := by
  have hwf := hg.wellFormed
  obtain ⟨_, _, _, hsets⟩ := FirstFollow.ofGrammar_eq hwf hstart
  refine ⟨_, hsets, fun A hvanish a hne hbegins hends => ?_⟩
  refine exists_conflicts hwf hstart fun t ht => ?_
  obtain ⟨sets, hsets', htable⟩ := ofGrammar_eq_ok ht
  obtain rfl := Except.ok.inj (hsets'.symm.trans hsets)
  obtain ⟨_, _, hfirst, hfollow, _⟩ := FirstFollow.closed_of_ofGrammar hwf hsets
  -- one spelling of the non-terminal emits nothing, and another one emits the terminal
  obtain ⟨hA, hnone⟩ := (FirstFollow.mem_first_iff hwf hsets).1 hvanish
  obtain ⟨_, hsome⟩ := (FirstFollow.mem_first_iff hwf hsets).1 hbegins
  rw [← hwf.form_singleton (SymbolTable.mem_nonterminals.1 hA).2] at hnone hsome
  have hvanishing := Grammar.spells_of_derives_word (Grammar.begins_epsilon_iff.1 hnone) (by simp)
  obtain ⟨heps, _⟩ | ⟨_, hterm, β, hderives⟩ := hsome
  · exact hne heps
  have hword : ∀ id ∈ [a], g.isTerminal id = true := by
    simpa using hterm
  have hlong : g.Derives (form [A]) ([a] ++ β) := hderives
  obtain ⟨rest, hemitting, _⟩ := Grammar.spells_of_derives hlong hword
  have halike := head?_eq_of_shown hwf htable hfirst hfollow
    (Grammar.covers_singleton fun _ hx => hx) hvanishing (Or.inr ⟨rfl, rfl, hends⟩) hemitting
    (Or.inl rfl)
  cases halike

end

end Table

/-- A grammar in which the only production of `A`, 4, is `B B`, where `B`, 5, is `a` or vanishes.  An
`A` comes before `a`, 2. -/
def Grammar.pairs : Grammar where
  symbols :=
    { symbols :=
        [SymbolTable.endMarkerSymbol "$", ⟨epsilonName, .terminal epsilonName⟩,
          ⟨"a", .terminal "a"⟩, ⟨"S", .nonterminal⟩, ⟨"A", .nonterminal⟩, ⟨"B", .nonterminal⟩] }
  productions := [⟨3, [4, 2]⟩, ⟨4, [5, 5]⟩, ⟨5, [2]⟩, ⟨5, [1]⟩]
  startName := some "S"

theorem Grammar.reachable_pairs :
    Grammar.pairs.Reachable := by
  have hload : Grammar.ofText
      ("terminal a a;\nstart with S;\n;\n" ++
        "S -> Aa;\nA -> BB;\nB -> a;\nB -> EPSILON;\n;\n") = .ok Grammar.pairs := by
    cbv
  exact Grammar.reachable_of_ofText hload

/-- With `a` next, `A` may vanish or begin with it, both by its only production, so the conflict is not
in the cell of `A`. -/
theorem Table.conflicts_of_clash_pairs :
    Grammar.pairs.productionsOf 4 = [1] ∧
      ∃ conflicts, conflicts ≠ [] ∧
        Table.ofGrammar Grammar.pairs = .error (.conflicts conflicts) := by
  have hclash : (FirstFollow.ofGrammar Grammar.pairs).toOption.any (fun sets =>
      decide (epsilon ∈ sets.first.get 4 ∧ 2 ∈ sets.first.get 4 ∧ 2 ∈ sets.follow.get 4)) =
        true := by
    decide +kernel
  obtain ⟨sets, hsets, hconflicts⟩ :=
    conflicts_of_clash (S := 3) Grammar.reachable_pairs (by decide +kernel)
  rw [hsets] at hclash
  obtain ⟨hvanish, hbegins, hends⟩ := of_decide_eq_true hclash
  exact ⟨by decide, hconflicts 4 hvanish 2 (by decide) hbegins hends⟩

end PredictiveParsing

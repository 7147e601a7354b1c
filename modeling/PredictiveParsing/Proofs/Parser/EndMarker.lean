import PredictiveParsing.Proofs.Parser.Failures
import Mathlib.Tactic

/-!
# The end of the input is the end marker

A list of tokens without end markers may be closed by one or left open.  The parser cannot tell: the
two runs have the same status, stack and history after each number of steps, and each step has the same
events or the same error (`Parser.end_is_endMarker`).  This holds for any table and for productions
that mention the end marker themselves.

The proof is a simulation (`Parser.InUnison`).  Up to the last token the two parsers differ by the end
marker at the end of the one list.  When it is looked at, the other parser has found its list to be at
an end, and from then on they differ only in whether they have found out: the one that has not is
asked once more, when an end marker was consumed or on the empty stack, and then finds the end, too.
-/

namespace PredictiveParsing
namespace Parser

section

variable {ε : Type} {g : Grammar} {t : Table} {p p' q : Parser (List (Except ε SymbolId))}

/-- A parser over a list without end markers, and the one over the list with an end marker after
it. -/
inductive InUnison (p p' : Parser (List (Except ε SymbolId))) : Prop
  | before
      (hexhausted : p.exhausted = false)
      (hlookahead : p.lookahead ≠ some endMarker)
      (hfree : .ok endMarker ∉ p.source)
      (heq : p' = p.withInput (p.source ++ [.ok endMarker]) false)
  | past
      (hexhausted : p.exhausted = true)
      {exhausted : Bool}
      (heq : p' = p.withInput [] exhausted)

theorem InUnison.view_eq
    (h : InUnison p p') :
    p'.view = p.view := by
  obtain ⟨_, _, _, rfl⟩ | ⟨_, rfl⟩ := h <;> rfl

theorem InUnison.lookahead_eq
    (h : InUnison p p') :
    p'.lookahead = p.lookahead := by
  obtain ⟨_, _, _, rfl⟩ | ⟨_, rfl⟩ := h <;> rfl

theorem InUnison.peeking
    (h : InUnison p p')
    {r : Except ε SymbolId}
    (hpeeking : Peeking (Source.ofList ε) p r q) :
    ∃ q', Peeking (Source.ofList ε) p' r q' ∧ InUnison q q' := by
  have hsame := h.lookahead_eq
  cases h with
  | before hexhausted hlookahead hfree heq =>
      cases hpeeking with
      | known hknown =>
          exact ⟨p', .known (hsame.trans hknown), .before hexhausted hlookahead hfree heq⟩
      | again _ htrue =>
          rw [hexhausted] at htrue
          cases htrue
      | @pulled hnone _ a rest hpull =>
          have hsource := Source.eq_of_pull_some hpull
          rw [hsource] at heq hfree
          rw [List.mem_cons, not_or] at hfree
          have ha : some a ≠ some endMarker := by
            intro hmarker
            cases hmarker
            exact hfree.1 rfl
          subst heq
          exact ⟨_, .pulled (hsame.trans hnone) rfl rfl, .before hexhausted ha hfree.2 rfl⟩
      | ended hnone _ hpull =>
          -- the one list is over, and the other has its end marker left
          obtain ⟨hsource, rfl⟩ := Source.eq_of_pull_none hpull
          rw [hsource] at heq
          subst heq
          exact ⟨_, .pulled (hsame.trans hnone) rfl rfl, .past rfl rfl⟩
      | @failed hnone _ rest e hpull =>
          have hsource := Source.eq_of_pull_error hpull
          rw [hsource] at heq hfree
          rw [List.mem_cons, not_or] at hfree
          subst heq
          exact ⟨_, .failed (hsame.trans hnone) rfl rfl, .before hexhausted hlookahead hfree.2 rfl⟩
  | @past hexhausted exhausted heq =>
      cases hpeeking with
      | known hknown =>
          exact ⟨p', .known (hsame.trans hknown), .past hexhausted heq⟩
      | again hnone =>
          subst heq
          cases exhausted with
          | true =>
              exact ⟨_, .again (hsame.trans hnone) rfl, .past hexhausted rfl⟩
          | false =>
              exact ⟨_, .ended (hsame.trans hnone) rfl rfl, .past hexhausted rfl⟩
      | pulled _ hfalse | ended _ hfalse | failed _ hfalse =>
          rw [hexhausted] at hfalse
          cases hfalse

theorem InUnison.closing
    (h : InUnison p p')
    {a : SymbolId} {r : Except ε (List Event)}
    (hlookahead : p.lookahead = some a)
    (hclosing : Closing (Source.ofList ε) a p r q) :
    ∃ q', Closing (Source.ofList ε) a p' r q' ∧ InUnison q q' := by
  cases h with
  | before hexhausted hmarker hfree heq =>
      subst heq
      cases hclosing with
      | trailing ha =>
          exact ⟨_, .trailing ha, .before hexhausted hmarker hfree rfl⟩
      | accepted ha | closed ha | extra ha | failed ha =>
          rw [hlookahead, ha] at hmarker
          exact absurd rfl hmarker
  | @past hexhausted exhausted heq =>
      subst heq
      cases hclosing with
      | trailing ha =>
          exact ⟨_, .trailing ha, .past hexhausted rfl⟩
      | accepted ha =>
          cases exhausted with
          | true =>
              exact ⟨_, .accepted ha rfl, .past hexhausted rfl⟩
          | false =>
              exact ⟨_, .closed ha rfl rfl, .past hexhausted rfl⟩
      | closed _ hfalse | extra _ hfalse | failed _ hfalse =>
          rw [hexhausted] at hfalse
          cases hfalse

theorem InUnison.reduction
    (h : InUnison p p')
    {a top : SymbolId} {rest : List SymbolId} {events : List Event}
    (hreduction : Reduction g t a top rest p events q) :
    ∃ q', Reduction g t a top rest p' events q' ∧ InUnison q q' := by
  obtain ⟨hexhausted', hsource, hinput⟩ := hreduction.input
  cases h with
  | before hexhausted hmarker hfree heq =>
      subst heq
      refine ⟨_, hreduction.withInput _ _, ?_⟩
      rw [← hsource] at hfree ⊢
      refine .before (hexhausted'.trans hexhausted) ?_ hfree rfl
      rcases hinput with ⟨_, hsame⟩ | ⟨_, hnone⟩
      · rwa [hsame]
      · simp [hnone]
  | past hexhausted heq =>
      subst heq
      exact ⟨_, hreduction.withInput _ _, .past (hexhausted'.trans hexhausted) rfl⟩

/-- Two parsers in unison make the same step. -/
theorem InUnison.step
    (h : InUnison p p') :
    (p'.step (Source.ofList ε) g t).1 = (p.step (Source.ofList ε) g t).1 ∧
      InUnison (p.step (Source.ofList ε) g t).2 (p'.step (Source.ofList ε) g t).2 := by
  have hspec := step_spec (Source.ofList ε) g t p
  generalize (p.step (Source.ofList ε) g t).1 = r at hspec ⊢
  generalize (p.step (Source.ofList ε) g t).2 = q at hspec ⊢
  suffices hstep : ∃ q', Transition (Source.ofList ε) g t p' r q' ∧ InUnison q q' by
    obtain ⟨q', htransition, hq⟩ := hstep
    rw [htransition.eq]
    exact ⟨rfl, hq⟩
  have hstatus : p'.status = p.status := congrArg Prod.fst h.view_eq
  have hsame : p'.stack = p.stack := congrArg (fun view => view.2.1) h.view_eq
  cases hspec with
  | idle hrun =>
      exact ⟨p', .idle (hstatus ▸ hrun), h⟩
  | unread hrun hpeeking =>
      obtain ⟨q', hpeeking', hq⟩ := h.peeking hpeeking
      exact ⟨q', .unread (hstatus.trans hrun) hpeeking', hq⟩
  | finished hrun hpeeking hstack hclosing =>
      obtain ⟨_, hpeeking', hmiddle⟩ := h.peeking hpeeking
      obtain ⟨q', hclosing', hq⟩ := hmiddle.closing hpeeking.lookahead hclosing
      exact ⟨q', .finished (hstatus.trans hrun) hpeeking' (hsame.trans hstack) hclosing', hq⟩
  | reduced hrun hpeeking hstack hreduction =>
      obtain ⟨_, hpeeking', hmiddle⟩ := h.peeking hpeeking
      obtain ⟨q', hreduction', hq⟩ := hmiddle.reduction hreduction
      exact ⟨q', .reduced (hstatus.trans hrun) hpeeking' (hsame.trans hstack) hreduction', hq⟩

theorem inUnison_start
    (g : Grammar) {items : List (Except ε SymbolId)}
    (hfree : .ok endMarker ∉ items)
    (limit : Nat) :
    InUnison (start g items limit) (start g (items ++ [.ok endMarker]) limit) :=
  .before rfl (by simp [start]) hfree rfl

theorem InUnison.after
    (h : InUnison p p')
    (n : Nat) :
    InUnison (after (Source.ofList ε) g t n p) (after (Source.ofList ε) g t n p') := by
  induction n with
  | zero =>
      exact h
  | succ n ih =>
      rw [after_succ, after_succ]
      exact ih.step.2

/-- **The end of the input is the end marker.**  With any table, the run over a list without end
markers and the run over the list with one after it have the same status, with the same rejection, the
same stack and the same history after each number of steps, and their next steps have the same events
or the same error. -/
theorem end_is_endMarker
    (g : Grammar) (t : Table) {items : List (Except ε SymbolId)}
    (hfree : .ok endMarker ∉ items)
    (limit n : Nat) :
    view (Parser.after (Source.ofList ε) g t n (start g (items ++ [.ok endMarker]) limit)) =
        view (Parser.after (Source.ofList ε) g t n (start g items limit)) ∧
      ((Parser.after (Source.ofList ε) g t n (start g (items ++ [.ok endMarker]) limit)).step
          (Source.ofList ε) g t).1 =
        ((Parser.after (Source.ofList ε) g t n (start g items limit)).step
          (Source.ofList ε) g t).1 := by
  have h : InUnison (Parser.after (Source.ofList ε) g t n (start g items limit))
      (Parser.after (Source.ofList ε) g t n (start g (items ++ [.ok endMarker]) limit)) :=
    (inUnison_start g hfree limit).after n
  exact ⟨h.view_eq, h.step.1⟩

end

end Parser

/-- A grammar whose only production mentions the end marker, `S -> a $`. -/
def Grammar.marked : Grammar where
  symbols :=
    { symbols :=
        [SymbolTable.endMarkerSymbol "$", ⟨epsilonName, .terminal epsilonName⟩,
          ⟨"a", .terminal "a"⟩, ⟨"S", .nonterminal⟩] }
  productions := [⟨3, [2, 0]⟩]
  startName := some "S"

namespace Parser

/-- After three steps over `a` or `a $`, the production has consumed the end marker, whether the list
has one or not, and the fourth step accepts. -/
theorem end_is_endMarker_marked :
    view (after (Source.ofList Unit) Grammar.marked { rows := [(3, [(2, 0)])] } 3
        (start Grammar.marked [.ok 2, .ok endMarker] defaultHistoryLimit)) =
      (.running, [], [2, endMarker]) ∧
    ((after (Source.ofList Unit) Grammar.marked { rows := [(3, [(2, 0)])] } 3
        (start Grammar.marked [.ok 2, .ok endMarker] defaultHistoryLimit)).step
          (Source.ofList Unit) Grammar.marked { rows := [(3, [(2, 0)])] }).1 =
      .ok [.accepted] := by
  have hfree : .ok endMarker ∉ [Except.ok (ε := Unit) 2] := by
    decide
  obtain ⟨hview, hstep⟩ := end_is_endMarker Grammar.marked { rows := [(3, [(2, 0)])] } hfree
    defaultHistoryLimit 3
  constructor
  · exact hview.trans (by decide +kernel)
  · exact hstep.trans (by decide +kernel)

end Parser
end PredictiveParsing

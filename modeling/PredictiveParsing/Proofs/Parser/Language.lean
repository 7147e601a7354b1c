import PredictiveParsing.Proofs.Parser.Following
import Mathlib.Tactic

/-!
# The language of a parser

With a table that was built, a parser accepts a sequence of tokens exactly when the start symbol
derives it, up to end markers: the derived word may take end markers after the last token, and of the
tokens a single end marker may be left over.

That an accepted input is derived comes from the leftmost derivation of the run, with `Parser.Reads`
as the invariant for the input.  That a derived input is accepted is the work of
`Parser.advances_of_spells`; then the stack is empty, and the last step accepts.
-/

namespace PredictiveParsing
namespace Parser

section

variable {σ ε : Type} {src : Source σ ε} {g : Grammar} {t : Table} {p q : Parser σ}
  {ts word rest : List SymbolId}

/-- Of some tokens, with end markers after them, a word has been read and the rest has not. -/
def Reads (ts word rest : List SymbolId) : Prop :=
  ∃ k, word ++ rest = ts ++ List.replicate k endMarker ∧ (k = 0 ∨ rest = [])

theorem reads_nil
    (ts : List SymbolId) :
    Reads ts [] ts :=
  ⟨0, by simp, Or.inl rfl⟩

theorem Reads.next
    (h : Reads ts word rest) :
    Reads ts (word ++ [rest.headD endMarker]) (rest.drop 1) := by
  obtain ⟨k, hsplit, hk⟩ := h
  cases rest with
  | nil =>
      refine ⟨k + 1, ?_, Or.inr rfl⟩
      rw [List.append_nil] at hsplit
      simp [hsplit, List.replicate_succ']
  | cons a rest =>
      rcases hk with rfl | hnil
      · exact ⟨0, by simpa using hsplit, Or.inl rfl⟩
      · cases hnil

theorem Reads.isPrefix
    (h : Reads ts word rest) :
    ∃ k, word <+: ts ++ List.replicate k endMarker := by
  obtain ⟨k, hsplit, _⟩ := h
  exact ⟨k, rest, hsplit⟩

theorem Reads.drop_eq
    (h : Reads ts word rest) :
    ts.drop word.length = rest := by
  obtain ⟨k, hsplit, rfl | rfl⟩ := h
  · rw [List.replicate_zero, List.append_nil] at hsplit
    rw [← hsplit, List.drop_left]
  · rw [List.append_nil] at hsplit
    rw [hsplit, List.drop_eq_nil_iff, List.length_append]
    omega

/-- What has been read of the tokens and what is ahead, while the parser runs and when it accepts. -/
def Reading (src : Source σ ε) (ts word : List SymbolId) (p : Parser σ) : Prop :=
  (p.status = .running → ∃ rest, Reads ts word rest ∧ Ahead src none p rest) ∧
    (p.status = .accepted → ∃ rest, Reads ts word rest ∧ (rest = [] ∨ rest = [endMarker]))

/-- Without an error ahead, the step on the empty stack stops. -/
theorem Closing.stops
    {a : SymbolId} {r : Except ε (List Event)}
    (hclosing : Closing src a p r q)
    (h : Ahead src none p ts) :
    q.status ≠ .running ∧ consumed g (r.toOption.getD []) = [] := by
  cases hclosing with
  | trailing | accepted | closed | extra =>
      exact ⟨by simp, rfl⟩
  | failed _ hexhausted hpull =>
      cases h with
      | known _ _ h | unknown _ _ h =>
          cases h with
          | ended hpull' | token hpull' =>
              rw [hpull] at hpull'
              cases hpull'
      | used htrue =>
          rw [hexhausted] at htrue
          cases htrue

theorem Reading.step
    (h : Reading src ts word p) :
    Reading src ts (word ++ consumed g ((p.step src g t).1.toOption.getD []))
      (p.step src g t).2 := by
  have hspec := step_spec src g t p
  generalize (p.step src g t).1 = r at hspec ⊢
  generalize (p.step src g t).2 = q at hspec ⊢
  cases hspec with
  | idle hrun =>
      have hnone : consumed g ((Except.ok [] : Except ε (List Event)).toOption.getD []) = [] := rfl
      rw [hnone, List.append_nil]
      exact h
  | unread hrun hpeeking =>
      obtain ⟨rest, _, hahead⟩ := h.1 hrun
      rcases hpeeking.ahead hahead with ⟨hr, _⟩ | ⟨_, _, _, hnone⟩
      · cases hr
      · cases hnone
  | finished hrun hpeeking hstack hclosing =>
      obtain ⟨rest, hreads, hahead⟩ := h.1 hrun
      rcases hpeeking.ahead hahead with ⟨hr, hahead⟩ | ⟨_, _, _, hnone⟩
      · cases hr
        obtain ⟨hstopped, hnone⟩ := hclosing.stops (g := g) hahead
        rw [hnone, List.append_nil]
        refine ⟨fun hq => absurd hq hstopped, fun hq => ⟨rest, hreads, ?_⟩⟩
        have hstatus := hpeeking.unchanged.1.trans hrun
        have hrest := (hclosing.accepted_iff hstatus hpeeking.lookahead hahead).1 hq
        simpa using hrest
      · cases hnone
  | @reduced hrun _ _ hpeeking _ _ _ events _ hreduction =>
      obtain ⟨rest, hreads, hahead⟩ := h.1 hrun
      rcases hpeeking.ahead hahead with ⟨hr, hahead⟩ | ⟨_, _, _, hnone⟩
      · cases hr
        have hahead' := hreduction.ahead hpeeking.lookahead hahead
        have hreads' : Reads ts (word ++ consumed g events)
            (rest.drop (consumed g events).length) := by
          rcases hreduction.input.2.2 with ⟨hconsumed, _⟩ | ⟨hconsumed, _⟩
          · rw [hconsumed, List.append_nil]
            exact hreads
          · rw [hconsumed]
            exact hreads.next
        refine ⟨fun _ => ⟨_, hreads', hahead'⟩, fun hq => ?_⟩
        have hstatus := hpeeking.unchanged.1.trans hrun
        cases hreduction <;> simp [hstatus, consume] at hq
      · cases hnone

theorem Reaches.reading
    (h : Reading src ts [] p)
    {events : List Event}
    (hreaches : Reaches src g t p events q) :
    Reading src ts (consumed g events) q := by
  induction hreaches with
  | refl =>
      exact h
  | step _ ih =>
      rw [consumed_append]
      exact ih.step

/-- On the empty stack, a parser that can go on accepts if nothing is ahead but one end marker. -/
theorem Ready.finish
    (hp : Ready src g t p ts)
    (hstack : p.stack = [])
    (hts : ts = [] ∨ ts = [endMarker]) :
    (p.step src g t).2.status = .accepted := by
  have hspec := step_spec src g t p
  generalize (p.step src g t).1 = r at hspec
  generalize (p.step src g t).2 = q at hspec ⊢
  cases hspec with
  | idle hrun =>
      exact absurd hp.running hrun
  | unread hrun hpeeking =>
      cases (hp.peeking hpeeking).1
  | finished hrun hpeeking _ hclosing =>
      obtain ⟨heq, hready⟩ := hp.peeking hpeeking
      cases heq
      refine (hclosing.accepted_iff hready.running hpeeking.lookahead hready.ahead).2 ?_
      simpa using hts
  | reduced hrun hpeeking hcons =>
      rw [hstack] at hcons
      cases hcons

/-- **The language of a parser.**  A parser with a table that was built, over a source that supplies
some tokens and then ends, accepts exactly when the start symbol derives a word of terminals that the
tokens begin with, end markers without end coming after them, and no token is left over but at most
one end marker. -/
theorem accepts_iff_derives
    (hg : g.Reachable)
    (ht : Table.ofGrammar g = .ok t)
    {s : σ}
    (hsource : src.Supplies s ts none)
    (limit : Nat) :
    (∃ events q, Reaches src g t (Parser.start g s limit) events q ∧ q.status = .accepted) ↔
      ∃ S w, g.start = .ok S ∧ g.Derives [S] w ∧ (∀ id ∈ w, g.isTerminal id = true) ∧
        (∃ k, w <+: ts ++ List.replicate k endMarker) ∧
        (ts.drop w.length = [] ∨ ts.drop w.length = [endMarker]) := by
  have hwf := hg.wellFormed
  obtain ⟨S, hstart⟩ := Table.exists_start hwf ht
  obtain ⟨hstatus, hstack⟩ := start_eq hstart s limit
  have hS : form [S] = [S] := hwf.form_singleton (Grammar.start_eq_ok hstart).2
  constructor
  · -- the word is what the run has consumed
    rintro ⟨events, q, hreaches, haccepted⟩
    have hderives := (hreaches.leftmost (Table.fits_of_ofGrammar ht)).derives
    have hempty : q.stack = [] := by
      refine hreaches.stack_of_accepted (fun hp => ?_) haccepted
      rw [hstatus] at hp
      cases hp
    rw [hstack, hS, hempty, form_nil, List.append_nil] at hderives
    have hreading : Reading src ts [] (Parser.start g s limit) := by
      refine ⟨fun _ => ⟨ts, reads_nil ts, ahead_start hsource limit⟩, fun hp => ?_⟩
      rw [hstatus] at hp
      cases hp
    obtain ⟨rest, hreads, hrest⟩ := (hreaches.reading hreading).2 haccepted
    refine ⟨S, consumed g events, hstart, hderives, fun _ => terminal_of_mem_consumed,
      hreads.isPrefix, ?_⟩
    rw [hreads.drop_eq]
    exact hrest
  · -- the parser follows the spelling of the word, and then finishes
    rintro ⟨S', w, hstart', hderives, hterminals, hinput, hrest⟩
    obtain rfl : S = S' := Except.ok.inj (hstart.symm.trans hstart')
    have hspells := Grammar.spells_of_derives_word (hS.symm ▸ hderives) hterminals
    have hexposes : g.Exposes ((ts.drop w.length).headD endMarker) [] := by
      refine .bottom ?_
      rcases hrest with hrest | hrest <;> rw [hrest] <;> rfl
    have hform : g.Derives [S] ([] ++ form [S]) := by
      rw [List.nil_append, hS]
      exact Grammar.Derives.refl [S]
    obtain ⟨n, q, hadvances, _, hready, hnil⟩ :=
      advances_of_spells hwf ht hstart hspells hform (ready_start hstart hsource limit) hstack
        hinput hexposes
    obtain ⟨events, hreaches⟩ := hadvances.reaches
    exact ⟨_, _, hreaches.step, hready.finish hnil hrest⟩

/-- The names `id PLUS id` are accepted as a sum. -/
theorem accepts_iff_derives_sums :
    ∃ events q,
      Reaches (Source.ofNames Grammar.sums.symbols) Grammar.sums Table.sums
        (Parser.start Grammar.sums ["id", "PLUS", "id"] defaultHistoryLimit) events q ∧
      q.status = .accepted := by
  have hsource :
      (Source.ofNames Grammar.sums.symbols).Supplies ["id", "PLUS", "id"] [3, 2, 3] none :=
    Source.supplies_ofNames (by cbv)
  have hspells : Grammar.sums.Spells [4] [3, 2, 3] [] := by
    refine .expand (p := ⟨4, [6, 5]⟩) (by decide) ?_
    refine .expand (p := ⟨6, [3]⟩) (by decide) (.emit (by decide) (by decide) ?_)
    refine .expand (p := ⟨5, [2, 6, 5]⟩) (by decide) (.emit (by decide) (by decide) ?_)
    refine .expand (p := ⟨6, [3]⟩) (by decide) (.emit (by decide) (by decide) ?_)
    exact .expand (p := ⟨5, [1]⟩) (by decide) (.drop (.done []))
  refine (accepts_iff_derives Grammar.reachable_sums Table.ofGrammar_sums hsource _).2 ?_
  refine ⟨4, [3, 2, 3], by decide +kernel, ?_, by decide, ⟨0, by decide⟩, Or.inl rfl⟩
  exact hspells.derives Grammar.reachable_sums.wellFormed

end

end Parser
end PredictiveParsing

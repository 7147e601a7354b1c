import PredictiveParsing.Proofs.Cells
import PredictiveParsing.Proofs.Parser.Transfer
import Mathlib.Tactic

/-!
# Steps that fail

A source may fail and be asked again.  Here the source is a list of tokens and errors, and a parser
that goes on after every failed step is compared with the parser over the same list without the
errors (`Parser.purged`).

A step that fails in looking at the next token changes nothing but the source, which has moved past
the error, and so the two parsers stay in step (`InStep`).  There is another place to fail.  When the
stack is empty and an end marker of the list is next, the source is asked once more, and the parser
counts as exhausted before the answer is there.  If the answer is an error (`Parser.Closes`), the next
step accepts without a look at the rest of the list.  This makes a difference exactly when a token is
left there, which the parser without the errors rejects (`failed_steps_harmless_iff`).  Lists that
leave the end marker to the parser are safe (`failed_steps_harmless_of_endMarker_free`).
-/

namespace PredictiveParsing

namespace Source

section

variable {ε : Type} {items rest : List (Except ε SymbolId)}

/-- The tokens of a list. -/
def withoutErrors (items : List (Except ε SymbolId)) : List (Except ε SymbolId) :=
  items.filter Except.isOk

/-- The number of errors of a list. -/
def errors (items : List (Except ε SymbolId)) : Nat :=
  items.countP fun item => !item.isOk

@[simp]
theorem errors_ok_cons
    (a : SymbolId) (items : List (Except ε SymbolId)) :
    errors (.ok a :: items) = errors items :=
  List.countP_cons_of_neg (by simp [Except.isOk, Except.toBool])

@[simp]
theorem errors_error_cons
    (e : ε) (items : List (Except ε SymbolId)) :
    errors (.error e :: items) = errors items + 1 :=
  List.countP_cons_of_pos rfl

/-! What is pulled from a list is its first item. -/

theorem eq_of_pull_none
    (h : (ofList ε).pull items = (.ok none, rest)) :
    items = [] ∧ rest = [] := by
  rcases items with _ | ⟨e | a, items⟩ <;> cases h
  exact ⟨rfl, rfl⟩

theorem eq_of_pull_some
    {a : SymbolId}
    (h : (ofList ε).pull items = (.ok (some a), rest)) :
    items = .ok a :: rest := by
  rcases items with _ | ⟨e | a, items⟩ <;> cases h
  rfl

theorem eq_of_pull_error
    {e : ε}
    (h : (ofList ε).pull items = (.error e, rest)) :
    items = .error e :: rest := by
  rcases items with _ | ⟨e | a, items⟩ <;> cases h
  rfl

/-- A pull that succeeds does so without the errors, too. -/
theorem pull_withoutErrors
    {x : Option SymbolId}
    (h : (ofList ε).pull items = (.ok x, rest)) :
    (ofList ε).pull (withoutErrors items) = (.ok x, withoutErrors rest) := by
  cases x with
  | none =>
      obtain ⟨rfl, rfl⟩ := eq_of_pull_none h
      rfl
  | some a =>
      rw [eq_of_pull_some h]
      rfl

theorem errors_of_pull
    {x : Option SymbolId}
    (h : (ofList ε).pull items = (.ok x, rest)) :
    errors items = errors rest := by
  cases x with
  | none =>
      obtain ⟨rfl, rfl⟩ := eq_of_pull_none h
      rfl
  | some a =>
      rw [eq_of_pull_some h, errors_ok_cons]

theorem withoutErrors_eq_nil_iff :
    withoutErrors items = [] ↔ ∀ token, .ok token ∉ items := by
  unfold withoutErrors
  rw [List.filter_eq_nil_iff]
  constructor
  · intro h token hmem
    exact h _ hmem rfl
  · intro h item hmem hok
    cases item with
    | ok token =>
        exact h token hmem
    | error e =>
        cases hok

/-- If there is a token in a list, the list without its errors begins with one. -/
theorem exists_withoutErrors_eq_cons
    {token : SymbolId}
    (h : .ok token ∈ items) :
    ∃ first more, withoutErrors items = .ok first :: more := by
  cases hitems : withoutErrors items with
  | nil =>
      exact absurd h (withoutErrors_eq_nil_iff.1 hitems token)
  | cons item more =>
      have hmem : item ∈ withoutErrors items := hitems ▸ List.mem_cons_self
      cases item with
      | ok first =>
          exact ⟨first, more, rfl⟩
      | error e =>
          cases (List.mem_filter.1 hmem).2

end

end Source

namespace Parser

/-! ### Other sources -/

section

variable {σ τ ε : Type} {src : Source σ ε} {src' : Source τ ε} {g : Grammar} {t : Table}
  {p q : Parser σ}

/-- The same parser over another source. -/
def mapSource (f : σ → τ) (p : Parser σ) : Parser τ :=
  { p with source := f p.source }

theorem gives_mapSource
    {f : σ → τ}
    (hf : ∀ s x s', src.pull s = (.ok x, s') → src'.pull (f s) = (.ok x, f s')) :
    src.Gives src' fun s s' => s' = f s := by
  rintro s _ x next rfl hpull
  exact ⟨f next, hf s x next hpull, rfl⟩

theorem Peeking.mapSource
    {f : σ → τ}
    (hf : ∀ s x s', src.pull s = (.ok x, s') → src'.pull (f s) = (.ok x, f s'))
    {a : SymbolId}
    (h : Peeking src p (.ok a) q) :
    Peeking src' (p.mapSource f) (.ok a) (q.mapSource f) := by
  obtain ⟨_, rfl, hpeeking⟩ := h.transfer (gives_mapSource hf) rfl
  exact hpeeking

/-- A step that succeeds is made in the same way over a source that gives the same tokens. -/
theorem Transition.mapSource
    {f : σ → τ}
    (hf : ∀ s x s', src.pull s = (.ok x, s') → src'.pull (f s) = (.ok x, f s'))
    {events : List Event}
    (h : Transition src g t p (.ok events) q) :
    Transition src' g t (p.mapSource f) (.ok events) (q.mapSource f) := by
  obtain ⟨_, rfl, htransition⟩ := h.transfer (gives_mapSource hf) rfl
  exact htransition

end

/-! ### Failed steps -/

section

variable {ε : Type} {g : Grammar} {t : Table} {p q : Parser (List (Except ε SymbolId))}
  {rest : List (Except ε SymbolId)} {e : ε}

/-- The parser over the same list without its errors. -/
def purged (p : Parser (List (Except ε SymbolId))) : Parser (List (Except ε SymbolId)) :=
  p.mapSource Source.withoutErrors

/-- The items that a parser has before it, the one it has looked at included. -/
def pending (p : Parser (List (Except ε SymbolId))) : List (Except ε SymbolId) :=
  (p.lookahead.map Except.ok).toList ++ p.source

/-- A running parser with an empty stack, an end marker of the list before it, and an error after
that. -/
structure Closes (p : Parser (List (Except ε SymbolId))) (e : ε)
    (rest : List (Except ε SymbolId)) : Prop where
  running : p.status = .running
  stack : p.stack = []
  exhausted : p.exhausted = false
  pending : p.pending = .ok endMarker :: .error e :: rest

/-- The parser when it has looked at an end marker and has these items after it. -/
def atMarker (p : Parser (List (Except ε SymbolId))) (items : List (Except ε SymbolId)) :
    Parser (List (Except ε SymbolId)) :=
  { p with source := items, lookahead := some endMarker }

/-- What becomes of it by the step that fails: it takes the input to be over. -/
def closed (p : Parser (List (Except ε SymbolId))) (rest : List (Except ε SymbolId)) :
    Parser (List (Except ε SymbolId)) :=
  { p.atMarker rest with exhausted := true }

/-- The two ways in which a step can fail. -/
theorem failed_step
    (h : p.step (Source.ofList ε) g t = (.error e, q)) :
    (p.lookahead = none ∧ ∃ rest, p.source = .error e :: rest ∧ q = { p with source := rest }) ∨
      ∃ rest, p.Closes e rest ∧ q = p.closed rest := by
  have hspec := step_spec (Source.ofList ε) g t p
  rw [h] at hspec
  cases hspec with
  | unread hrun hpeeking =>
      cases hpeeking with
      | failed hlookahead _ hpull =>
          exact Or.inl ⟨hlookahead, _, Source.eq_of_pull_error hpull, rfl⟩
  | @finished hrun _ p' hpeeking hstack _ _ hclosing =>
      cases hclosing with
      | @failed ha hexhausted rest _ hpull =>
          subst ha
          right
          have hsource : p'.source = .error e :: rest := Source.eq_of_pull_error hpull
          cases hpeeking with
          | known hlookahead =>
              refine ⟨rest, ⟨hrun, hstack, hexhausted, ?_⟩, ?_⟩
              · simp [pending, hlookahead, hsource]
              · rw [closed, atMarker, ← hlookahead]
          | again _ htrue =>
              rw [show p.exhausted = false from hexhausted] at htrue
              cases htrue
          | pulled hlookahead hfalse hpull' =>
              refine ⟨rest, ⟨hrun, hstack, hfalse, ?_⟩, rfl⟩
              have hfirst := Source.eq_of_pull_some hpull'
              simpa [pending, hlookahead, hfirst] using hsource
          | ended =>
              cases hexhausted

/-! ### Closing on an error -/

/-- The parser looks at the end marker, with the error before it then. -/
theorem Closes.peeking
    (h : p.Closes e rest) :
    Peeking (Source.ofList ε) p (.ok endMarker) (p.atMarker (.error e :: rest)) := by
  have hpending := h.pending
  cases hlookahead : p.lookahead with
  | none =>
      simp only [Parser.pending, hlookahead, Option.map_none, Option.toList_none,
        List.nil_append] at hpending
      have hpull : (Source.ofList ε).pull p.source =
          (.ok (some endMarker), .error e :: rest) := by
        rw [hpending]
        rfl
      exact .pulled hlookahead h.exhausted hpull
  | some a =>
      simp only [Parser.pending, hlookahead, Option.map_some, Option.toList_some,
        List.singleton_append, List.cons.injEq, Except.ok.injEq] at hpending
      obtain ⟨rfl, hsource⟩ := hpending
      rw [atMarker, ← hsource, ← hlookahead]
      exact .known hlookahead

/-- Its step fails. -/
theorem Closes.step
    (h : p.Closes e rest) :
    p.step (Source.ofList ε) g t = (.error e, p.closed rest) := by
  have hclosing : Closing (Source.ofList ε) endMarker (p.atMarker (.error e :: rest)) (.error e)
      (p.closed rest) :=
    .failed (p := p.atMarker (.error e :: rest)) rfl h.exhausted rfl
  exact (Transition.finished h.running h.peeking h.stack hclosing).eq

/-- Without the errors, the parser has only the rest of the list before it, after the end marker. -/
theorem Closes.peeking_purged
    (h : p.Closes e rest) :
    Peeking (Source.ofList ε) p.purged (.ok endMarker)
      (p.purged.atMarker (Source.withoutErrors rest)) :=
  h.peeking.mapSource fun _ _ _ => Source.pull_withoutErrors

/-- After the step that failed, the parser accepts. -/
theorem Closes.step_closed
    (h : p.Closes e rest) :
    (p.closed rest).step (Source.ofList ε) g t =
      (.ok [.accepted], { p.closed rest with status := .accepted }) := by
  have hpeeking : Peeking (Source.ofList ε) (p.closed rest) (.ok endMarker) (p.closed rest) :=
    .known rfl
  have hclosing : Closing (Source.ofList ε) endMarker (p.closed rest) (.ok [.accepted])
      { p.closed rest with status := .accepted } :=
    .accepted rfl rfl
  exact (Transition.finished (p := p.closed rest) h.running hpeeking h.stack hclosing).eq

/-- Without the errors it accepts as well, if there are no tokens left. -/
theorem Closes.step_purged_of_nil
    (h : p.Closes e rest)
    (hrest : Source.withoutErrors rest = []) :
    p.purged.step (Source.ofList ε) g t =
      (.ok [.accepted], { p.closed [] with status := .accepted }) := by
  have hpull : (Source.ofList ε).pull (Source.withoutErrors rest) = (.ok none, []) := by
    rw [hrest]
    rfl
  have hclosing : Closing (Source.ofList ε) endMarker
      (p.purged.atMarker (Source.withoutErrors rest)) (.ok [.accepted])
      { p.closed [] with status := .accepted } :=
    .closed (p := p.purged.atMarker (Source.withoutErrors rest)) rfl h.exhausted hpull
  exact (Transition.finished (p := p.purged) h.running h.peeking_purged h.stack hclosing).eq

/-- Without the errors it rejects the first token that is left. -/
theorem Closes.step_purged_of_cons
    (h : p.Closes e rest)
    {token : SymbolId} {more : List (Except ε SymbolId)}
    (hrest : Source.withoutErrors rest = .ok token :: more) :
    p.purged.step (Source.ofList ε) g t =
      (.ok [.rejected (.trailingInput token)],
        { p.closed more with status := .rejected (.trailingInput token) }) := by
  have hpull : (Source.ofList ε).pull (Source.withoutErrors rest) = (.ok (some token), more) := by
    rw [hrest]
    rfl
  have hclosing : Closing (Source.ofList ε) endMarker
      (p.purged.atMarker (Source.withoutErrors rest)) (.ok [.rejected (.trailingInput token)])
      { p.closed more with status := .rejected (.trailingInput token) } :=
    .extra (p := p.purged.atMarker (Source.withoutErrors rest)) rfl h.exhausted hpull
  exact (Transition.finished (p := p.purged) h.running h.peeking_purged h.stack hclosing).eq

/-- A parser that closes on an error, with a token left after it. -/
def Loses (p : Parser (List (Except ε SymbolId))) : Prop :=
  ∃ e rest token, p.Closes e rest ∧ .ok token ∈ rest

/-! ### Two parsers in step -/

/-- What can be seen of a parser: its status, its stack and its history. -/
def view {σ : Type} (p : Parser σ) : Status × List SymbolId × List SymbolId :=
  (p.status, p.stack, p.history)

/-- A parser over a list and one over its tokens that are in step: they are the same up to the errors,
or the first one has just closed on an error with no token left. -/
inductive InStep :
    Parser (List (Except ε SymbolId)) → Parser (List (Except ε SymbolId)) → Prop
  | same (p : Parser (List (Except ε SymbolId))) : InStep p p.purged
  | closing
      {p : Parser (List (Except ε SymbolId))} {e : ε} {rest : List (Except ε SymbolId)}
      (hcloses : p.Closes e rest)
      (hrest : Source.withoutErrors rest = []) :
      InStep (p.closed rest) p.purged

theorem InStep.view_eq
    (h : InStep p q) :
    p.view = q.view := by
  cases h with
  | same | closing =>
      rfl

/-- A step that succeeds is made by both parsers, one that fails by the first one only. -/
theorem InStep.step
    {p' : Parser (List (Except ε SymbolId))}
    (h : InStep p p')
    (hno : ¬ Loses p)
    {r : Except ε (List Event)}
    (hstep : p.step (Source.ofList ε) g t = (r, q)) :
    InStep q (if r.isOk then (p'.step (Source.ofList ε) g t).2 else p') := by
  cases h with
  | same =>
      cases r with
      | ok events =>
          have hspec := step_spec (Source.ofList ε) g t p
          rw [hstep] at hspec
          have hsame := (hspec.mapSource fun _ _ _ => Source.pull_withoutErrors).eq
          change InStep q (p.purged.step (Source.ofList ε) g t).2
          rw [purged, hsame]
          exact .same q
      | error e =>
          change InStep q p.purged
          rcases failed_step hstep with ⟨_, rest, hsource, rfl⟩ | ⟨rest, hcloses, rfl⟩
          · have hsame : p.purged = purged { p with source := rest } := by
              simp only [purged, mapSource, hsource]
              rfl
            rw [hsame]
            exact .same _
          · refine .closing hcloses (Source.withoutErrors_eq_nil_iff.2 fun token hmem => ?_)
            exact hno ⟨e, rest, token, hcloses, hmem⟩
  | @closing p e rest hcloses hrest =>
      rw [hcloses.step_closed] at hstep
      cases hstep
      change InStep _ (p.purged.step (Source.ofList ε) g t).2
      rw [hcloses.step_purged_of_nil hrest]
      have hsame : ({ p.closed [] with status := .accepted } : Parser _) =
          purged { p.closed rest with status := .accepted } := by
        simp only [purged, mapSource, closed, atMarker, hrest]
      rw [hsame]
      exact .same _

/-- How many of a number of steps fail. -/
def failures {σ : Type} (src : Source σ ε) (g : Grammar) (t : Table) (p : Parser σ) : Nat → Nat
  | 0 => 0
  | n + 1 =>
      failures src g t p n + if ((after src g t n p).step src g t).1.isOk then 0 else 1

theorem failures_le
    {σ : Type} (src : Source σ ε) (g : Grammar) (t : Table) (p : Parser σ) (n : Nat) :
    failures src g t p n ≤ n := by
  induction n with
  | zero =>
      exact Nat.le_refl 0
  | succ n ih =>
      unfold failures
      split <;> omega

/-- As long as no token is lost, the parser over the tokens alone is in step, with the failed steps
not counted. -/
theorem inStep_after
    {n : Nat}
    (hno : ∀ m < n, ¬ Loses (after (Source.ofList ε) g t m p)) :
    InStep (after (Source.ofList ε) g t n p)
      (after (Source.ofList ε) g t (n - failures (Source.ofList ε) g t p n) p.purged) := by
  induction n with
  | zero =>
      exact .same p
  | succ n ih =>
      have hn := ih fun m hm => hno m (Nat.lt_succ_of_lt hm)
      have hnext := hn.step (hno n (Nat.lt_succ_self n))
        (Prod.mk.eta (p := (after (Source.ofList ε) g t n p).step (Source.ofList ε) g t)).symm
      have hle := failures_le (Source.ofList ε) g t p n
      rw [← after_succ] at hnext
      unfold failures
      split
      · rename_i hok
        have hcount : n + 1 - (failures (Source.ofList ε) g t p n + 0) =
            n - failures (Source.ofList ε) g t p n + 1 := by
          omega
        rw [hok, if_pos rfl, ← after_succ] at hnext
        rwa [hcount]
      · rename_i hfailed
        rw [if_neg hfailed] at hnext
        rwa [Nat.add_sub_add_right]

/-- When a token is lost, the two parsers part: after one more step, the one over the whole list
accepts and the other one rejects. -/
theorem Loses.view_ne
    {n : Nat}
    (hno : ∀ m < n, ¬ Loses (after (Source.ofList ε) g t m p))
    (h : Loses (after (Source.ofList ε) g t n p)) :
    view (after (Source.ofList ε) g t (n + 2) p) ≠
      view (after (Source.ofList ε) g t (n + 2 - failures (Source.ofList ε) g t p (n + 2))
        p.purged) := by
  obtain ⟨e, rest, token, hcloses, hmem⟩ := h
  have hinstep := inStep_after hno
  have hle := failures_le (Source.ofList ε) g t p n
  generalize hlast : after (Source.ofList ε) g t n p = last at hcloses hinstep
  generalize hother : after (Source.ofList ε) g t (n - failures (Source.ofList ε) g t p n)
    p.purged = other at hinstep
  -- a parser that has closed already does not ask its source again
  cases hinstep with
  | closing =>
      cases hcloses.exhausted
  | same =>
      have hfailed : after (Source.ofList ε) g t (n + 1) p = last.closed rest := by
        rw [after_succ, hlast, hcloses.step]
      have haccepted : after (Source.ofList ε) g t (n + 2) p =
          { last.closed rest with status := .accepted } := by
        rw [after_succ, hfailed, hcloses.step_closed]
      have hcount : failures (Source.ofList ε) g t p (n + 2) =
          failures (Source.ofList ε) g t p n + 1 := by
        simp only [failures, hlast, hfailed, hcloses.step, hcloses.step_closed]
        rfl
      obtain ⟨first, more, hfirst⟩ := Source.exists_withoutErrors_eq_cons hmem
      have hsteps : n + 2 - (failures (Source.ofList ε) g t p n + 1) =
          n - failures (Source.ofList ε) g t p n + 1 := by
        omega
      rw [haccepted, hcount, hsteps, after_succ, hother, hcloses.step_purged_of_cons hfirst]
      intro hview
      cases hview

/-- A parser over a list is in step with the one over its tokens unless it loses a token. -/
theorem view_after_eq_iff :
    (∀ n, view (after (Source.ofList ε) g t n p) =
        view (after (Source.ofList ε) g t (n - failures (Source.ofList ε) g t p n) p.purged)) ↔
      ∀ n, ¬ Loses (after (Source.ofList ε) g t n p) := by
  constructor
  · intro hview n
    induction n using Nat.strong_induction_on with
    | h n ih =>
        exact fun hloses => hloses.view_ne ih (hview (n + 2))
  · intro hno n
    exact (inStep_after fun m _ => hno m).view_eq

/-! ### Lists without end markers -/

theorem Peeking.pending_subset
    {r : Except ε SymbolId}
    (h : Peeking (Source.ofList ε) p r q)
    (hq : q.exhausted = false) :
    p.exhausted = false ∧ q.pending ⊆ p.pending := by
  cases h with
  | known =>
      exact ⟨hq, List.Subset.refl _⟩
  | again _ hexhausted =>
      rw [show p.exhausted = false from hq] at hexhausted
      cases hexhausted
  | pulled hlookahead hexhausted hpull =>
      have hsource := Source.eq_of_pull_some hpull
      refine ⟨hexhausted, ?_⟩
      simp [pending, hlookahead, hsource]
  | ended =>
      cases hq
  | failed hlookahead hexhausted hpull =>
      have hsource := Source.eq_of_pull_error hpull
      refine ⟨hexhausted, ?_⟩
      simp [pending, hlookahead, hsource]

theorem Closing.pending_subset
    {a : SymbolId} {r : Except ε (List Event)}
    (h : Closing (Source.ofList ε) a p r q)
    (hq : q.exhausted = false) :
    p.exhausted = false ∧ q.pending ⊆ p.pending := by
  cases h with
  | trailing =>
      exact ⟨hq, List.Subset.refl _⟩
  | accepted _ hexhausted =>
      rw [show p.exhausted = false from hq] at hexhausted
      cases hexhausted
  | closed | extra | failed =>
      cases hq

theorem Reduction.pending_subset
    {a top : SymbolId} {stack : List SymbolId} {events : List Event}
    (h : Reduction g t a top stack p events q) :
    q.pending ⊆ p.pending := by
  obtain ⟨_, hsource, ⟨_, hlookahead⟩ | ⟨_, hlookahead⟩⟩ := h.input
  · rw [pending, pending, hlookahead, hsource]
    exact List.Subset.refl _
  · rw [pending, pending, hlookahead, hsource]
    exact List.subset_append_right _ _

/-- As long as the list is not over, a parser has nothing before it that it had not before the step. -/
theorem Transition.pending_subset
    {r : Except ε (List Event)}
    (h : Transition (Source.ofList ε) g t p r q)
    (hq : q.exhausted = false) :
    p.exhausted = false ∧ q.pending ⊆ p.pending := by
  cases h with
  | idle =>
      exact ⟨hq, List.Subset.refl _⟩
  | unread _ hpeeking =>
      exact hpeeking.pending_subset hq
  | finished _ hpeeking _ hclosing =>
      obtain ⟨hmiddle, hlast⟩ := hclosing.pending_subset hq
      obtain ⟨hp, hfirst⟩ := hpeeking.pending_subset hmiddle
      exact ⟨hp, List.Subset.trans hlast hfirst⟩
  | reduced _ hpeeking _ hreduction =>
      obtain ⟨hp, hfirst⟩ := hpeeking.pending_subset (hreduction.input.1.symm.trans hq)
      exact ⟨hp, List.Subset.trans hreduction.pending_subset hfirst⟩

theorem pending_after_subset
    {n : Nat}
    (h : (after (Source.ofList ε) g t n p).exhausted = false) :
    (after (Source.ofList ε) g t n p).pending ⊆ p.pending := by
  induction n with
  | zero =>
      exact List.Subset.refl _
  | succ n ih =>
      rw [after_succ] at h ⊢
      obtain ⟨hn, hsubset⟩ := (step_spec (Source.ofList ε) g t _).pending_subset h
      exact List.Subset.trans hsubset (ih hn)

/-- Without an end marker in the list, failed steps make no difference at all. -/
theorem failed_steps_harmless_of_endMarker_free
    (hfree : .ok endMarker ∉ p.pending)
    (n : Nat) :
    view (after (Source.ofList ε) g t n p) =
      view (after (Source.ofList ε) g t (n - failures (Source.ofList ε) g t p n) p.purged) := by
  refine view_after_eq_iff.2 (fun m hloses => ?_) n
  obtain ⟨e, rest, token, hcloses, _⟩ := hloses
  refine hfree (pending_after_subset hcloses.exhausted ?_)
  rw [hcloses.pending]
  exact List.mem_cons_self

/-! ### Counting the failed steps -/

theorem errors_pending
    (p : Parser (List (Except ε SymbolId))) :
    Source.errors p.pending = Source.errors p.source := by
  unfold pending
  cases p.lookahead with
  | none =>
      rfl
  | some a =>
      exact Source.errors_ok_cons a p.source

/-- A step that fails uses up an error of the source, and one that succeeds does not. -/
theorem errors_of_step
    {r : Except ε (List Event)}
    (h : p.step (Source.ofList ε) g t = (r, q)) :
    Source.errors p.source = Source.errors q.source + if r.isOk then 0 else 1 := by
  cases r with
  | error e =>
      rcases failed_step h with ⟨_, rest, hsource, rfl⟩ | ⟨rest, hcloses, rfl⟩
      · rw [hsource, Source.errors_error_cons]
        rfl
      · rw [← errors_pending, hcloses.pending, Source.errors_ok_cons, Source.errors_error_cons]
        rfl
  | ok events =>
      have hpeeked : ∀ {a p'}, Peeking (Source.ofList ε) p (.ok a) p' →
          Source.errors p.source = Source.errors p'.source := by
        intro a p' hpeeking
        cases hpeeking with
        | known | again =>
            rfl
        | pulled _ _ hpull | ended _ _ hpull =>
            exact Source.errors_of_pull hpull
      change Source.errors p.source = Source.errors q.source
      have hspec := step_spec (Source.ofList ε) g t p
      rw [h] at hspec
      cases hspec with
      | idle =>
          rfl
      | finished hrun hpeeking hstack hclosing =>
          rw [hpeeked hpeeking]
          cases hclosing with
          | trailing | accepted =>
              rfl
          | closed _ _ hpull | extra _ _ hpull =>
              exact Source.errors_of_pull hpull
      | reduced hrun hpeeking hstack hreduction =>
          rw [hpeeked hpeeking, hreduction.input.2.1]

theorem failures_add_errors
    (n : Nat) :
    failures (Source.ofList ε) g t p n +
        Source.errors (after (Source.ofList ε) g t n p).source =
      Source.errors p.source := by
  induction n with
  | zero =>
      exact Nat.zero_add _
  | succ n ih =>
      have hstep := errors_of_step
        (Prod.mk.eta (p := (after (Source.ofList ε) g t n p).step (Source.ofList ε) g t)).symm
      rw [after_succ, failures]
      omega

theorem purged_start
    (g : Grammar) (items : List (Except ε SymbolId)) (limit : Nat) :
    purged (start g items limit) = start g (Source.withoutErrors items) limit := by
  unfold purged mapSource start
  cases g.start <;> rfl

/-- A step that fails has changed nothing but the source, or it has closed the input.  There are no
more of them than errors in the list.  A parser that goes on after each of them goes through the same
stacks and histories as the parser over the tokens alone, and stops in the same way, if and only if it
never closes the input on an error with a token left after it. -/
theorem failed_steps_harmless_iff
    (g : Grammar) (t : Table) (items : List (Except ε SymbolId)) (limit : Nat) :
    (∀ (p q : Parser (List (Except ε SymbolId))) (e : ε),
      p.step (Source.ofList ε) g t = (.error e, q) →
        (p.lookahead = none ∧ ∃ rest, p.source = .error e :: rest ∧ q = { p with source := rest }) ∨
          ∃ rest, p.Closes e rest ∧ q = p.closed rest) ∧
    (∀ n, failures (Source.ofList ε) g t (start g items limit) n ≤ Source.errors items) ∧
    ((∀ n, view (after (Source.ofList ε) g t n (start g items limit)) =
        view (after (Source.ofList ε) g t
          (n - failures (Source.ofList ε) g t (start g items limit) n)
          (start g (Source.withoutErrors items) limit))) ↔
      ∀ n, ¬ Loses (after (Source.ofList ε) g t n (start g items limit))) := by
  refine ⟨fun p q e => failed_step, fun n => ?_, ?_⟩
  · have hcount := failures_add_errors (g := g) (t := t) (p := start g items limit) n
    have hsource : (start g items limit).source = items := by
      unfold start
      cases g.start <;> rfl
    rw [hsource] at hcount
    omega
  · rw [← purged_start]
    exact view_after_eq_iff

/-- Over an identifier, the end marker, an error and another identifier, the sixth step closes the
input on the error, and the identifier after it is lost. -/
theorem failed_steps_harmless_iff_sums :
    (∃ rest, Closes
      (after (Source.ofList Unit) Grammar.sums Table.sums 5
        (start Grammar.sums [.ok 3, .ok 0, .error (), .ok 3] defaultHistoryLimit)) () rest) ∧
    ∃ n, Loses (after (Source.ofList Unit) Grammar.sums Table.sums n
      (start Grammar.sums [.ok 3, .ok 0, .error (), .ok 3] defaultHistoryLimit)) := by
  obtain ⟨hfailed, _, hviews⟩ := failed_steps_harmless_iff Grammar.sums Table.sums
    [.ok 3, .ok 0, .error (), .ok 3] defaultHistoryLimit
  constructor
  · have hstep : ((after (Source.ofList Unit) Grammar.sums Table.sums 5
        (start Grammar.sums [.ok 3, .ok 0, .error (), .ok 3] defaultHistoryLimit)).step
        (Source.ofList Unit) Grammar.sums Table.sums).1 = .error () := by
      decide +kernel
    rcases hfailed _ _ () (Prod.ext hstep rfl) with ⟨hlookahead, rest, hsource, _⟩ | ⟨rest, h, _⟩
    · have hnext : (after (Source.ofList Unit) Grammar.sums Table.sums 5
          (start Grammar.sums [.ok 3, .ok 0, .error (), .ok 3] defaultHistoryLimit)).lookahead =
          some endMarker := by
        decide +kernel
      rw [hnext] at hlookahead
      cases hlookahead
    · exact ⟨rest, h⟩
  · by_contra hnone
    have hsame := hviews.2 (fun n hloses => hnone ⟨n, hloses⟩) 7
    revert hsame
    decide +kernel

/-- The step that fails there takes the input to be over, and the parser accepts.  Without the error
it rejects. -/
theorem error_after_endMarker_loses_token :
    ((after (Source.ofList Unit) Grammar.sums Table.sums 5
      (start Grammar.sums [.ok 3, .ok 0, .error (), .ok 3] defaultHistoryLimit)).step
        (Source.ofList Unit) Grammar.sums Table.sums).1 = .error () ∧
    (after (Source.ofList Unit) Grammar.sums Table.sums 5
      (start Grammar.sums [.ok 3, .ok 0, .error (), .ok 3] defaultHistoryLimit)).exhausted = false ∧
    (after (Source.ofList Unit) Grammar.sums Table.sums 6
      (start Grammar.sums [.ok 3, .ok 0, .error (), .ok 3] defaultHistoryLimit)).exhausted = true ∧
    (after (Source.ofList Unit) Grammar.sums Table.sums 7
      (start Grammar.sums [.ok 3, .ok 0, .error (), .ok 3] defaultHistoryLimit)).status =
        .accepted ∧
    (after (Source.ofList Unit) Grammar.sums Table.sums 6
      (start Grammar.sums [.ok 3, .ok 0, .ok 3] defaultHistoryLimit)).status =
        .rejected (.trailingInput 3) := by
  decide +kernel

end

end Parser
end PredictiveParsing

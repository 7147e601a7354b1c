import PredictiveParsing.Proofs.Parser.Language
import Mathlib.Tactic

/-!
# Errors are found at once

With a table that was built, a parser that rejects does so at the first token that cannot be right:
what it has consumed is the beginning of some word of the grammar, and together with the token that
comes next it is the beginning of none (`Parser.rejects_at_first_impossible_token`).

The first half asks that every non-terminal derives some word.  What is consumed, with a word that the
stack derives, is then a word of the grammar.

For the second half the run is compared with a word that has the same terminals as the input, up to
the token that comes next.  As long as the two agree, the stack spells what is left of the word
(`Parser.OnTheWay`).  Then every non-terminal on top has a production in its cell, the one that the
spelling uses, and every terminal is matched.  At the end of the word the stack is empty.  The input is
at its end, too, since it agrees with the word and has no end marker of its own, and the parser accepts.
So no step rejects.
-/

namespace PredictiveParsing

/-! ### Words with end markers after them -/

/-- The first `n` terminals of a word with end markers after it without end. -/
def firstTerminals (n : Nat) (word : List SymbolId) : List SymbolId :=
  (word ++ List.replicate n endMarker).take n

section

variable {n i : Nat} {ts word front : List SymbolId}

@[simp] theorem length_firstTerminals
    (n : Nat) (word : List SymbolId) :
    (firstTerminals n word).length = n := by
  simp [firstTerminals]

/-- How many end markers are written down makes no difference to what stands in front. -/
theorem eq_firstTerminals_of_isPrefix
    (h : ∃ k, front <+: word ++ List.replicate k endMarker) :
    front = firstTerminals front.length word := by
  obtain ⟨k, h⟩ := h
  have hlength := h.length_le
  rw [List.length_append, List.length_replicate] at hlength
  have hmarkers : min (front.length - word.length) k =
      min (front.length - word.length) front.length := by
    omega
  conv_lhs => rw [List.prefix_iff_eq_take.1 h]
  simp only [firstTerminals, List.take_append, List.take_replicate, hmarkers]

theorem getElem?_firstTerminals
    (hi : i < n)
    (word : List SymbolId) :
    (firstTerminals n word)[i]? = some (word.getD i endMarker) := by
  rw [firstTerminals, List.getElem?_take_of_lt hi, List.getD_eq_getElem?_getD,
    List.getElem?_append]
  split
  · rename_i hword
    simp [hword]
  · rename_i hword
    have hmarker : i - word.length < n := by
      omega
    simp [hmarker, hword]

/-- Words that agree in their first terminals agree in each of them. -/
theorem getD_eq_of_firstTerminals_eq
    (h : firstTerminals n ts = firstTerminals n word)
    (hi : i < n) :
    ts.getD i endMarker = word.getD i endMarker := by
  refine Option.some.inj ?_
  rw [← getElem?_firstTerminals hi ts, h, getElem?_firstTerminals hi word]

theorem headD_drop
    (word : List SymbolId) (i : Nat) :
    (word.drop i).headD endMarker = word.getD i endMarker := by
  rw [List.headD_eq_head?_getD, List.head?_drop, List.getD_eq_getElem?_getD]

/-- Without an end marker of its own, a word shows one only after its end. -/
theorem drop_eq_nil_of_headD
    (hmarker : endMarker ∉ word)
    (h : (word.drop n).headD endMarker = endMarker) :
    word.drop n = [] := by
  cases hword : word.drop n with
  | nil =>
      rfl
  | cons a later =>
      rw [hword, List.headD_cons] at h
      have ha : a ∈ word := List.mem_of_mem_drop (hword ▸ List.mem_cons_self)
      exact absurd (h ▸ ha) hmarker

end

namespace Parser

section

variable {σ ε : Type} {src : Source σ ε} {g : Grammar} {t : Table} {p q : Parser σ}
  {S : SymbolId} {ts word done : List SymbolId} {events : List Event}

/-! ### The step that stops -/

/-- A step that stops the parser consumes nothing. -/
theorem Transition.consumed_eq_nil
    (hrun : p.status = .running)
    {r : Except ε (List Event)}
    (h : Transition src g t p r q)
    (hq : q.status ≠ .running) :
    consumed g (r.toOption.getD []) = [] := by
  cases h with
  | idle hstopped =>
      exact absurd hrun hstopped
  | unread =>
      rfl
  | finished _ _ _ hclosing =>
      cases hclosing <;> rfl
  | reduced _ hpeeking _ hreduction =>
      have hstatus := hpeeking.unchanged.1.trans hrun
      cases hreduction with
      | dropped | matched | expanded | vanished =>
          exact absurd hstatus hq
      | mismatched _ _ ha =>
          simp [Except.toOption, Event.consumed?, ha]
      | cycled _ hterm | stuck _ hterm =>
          simp [Except.toOption, Event.consumed?, hterm]

/-- A run that has stopped comes from a running parser that had consumed as much. -/
theorem Reaches.last_running
    (hp : p.status = .running)
    (h : Reaches src g t p events q)
    (hq : q.status ≠ .running) :
    ∃ others q', Reaches src g t p others q' ∧ q'.status = .running ∧
      consumed g events = consumed g others := by
  induction h with
  | refl =>
      exact absurd hp hq
  | @step events q h ih =>
      by_cases hrun : q.status = .running
      · refine ⟨events, q, h, hrun, ?_⟩
        rw [consumed_append, (step_spec src g t q).consumed_eq_nil hrun hq, List.append_nil]
      · rw [step_of_not_running hrun]
        obtain ⟨others, q', h', hrun', hconsumed⟩ := ih hrun
        refine ⟨others, q', h', hrun', ?_⟩
        rw [← hconsumed]
        simp [Except.toOption]

/-- A run consumes the terminals of its input in their order, and end markers after the last one. -/
theorem Reaches.consumed_eq_firstTerminals
    (hstart : g.start = .ok S)
    {s : σ}
    (hsource : src.Supplies s ts none)
    {limit : Nat}
    (h : Reaches src g t (Parser.start g s limit) events q) :
    consumed g events = firstTerminals (consumed g events).length ts := by
  have hstatus := (start_eq hstart s limit).1
  have hreading : Reading src ts [] (Parser.start g s limit) := by
    refine ⟨fun _ => ⟨ts, reads_nil ts, ahead_start hsource limit⟩, fun hp => ?_⟩
    rw [hstatus] at hp
    cases hp
  have hread : ∃ rest, Reads ts (consumed g events) rest := by
    by_cases hrun : q.status = .running
    · obtain ⟨rest, hreads, _⟩ := (h.reading hreading).1 hrun
      exact ⟨rest, hreads⟩
    · obtain ⟨others, q', h', hrun', hconsumed⟩ := h.last_running hstatus hrun
      obtain ⟨rest, hreads, _⟩ := (h'.reading hreading).1 hrun'
      exact ⟨rest, hconsumed ▸ hreads⟩
  obtain ⟨rest, hreads⟩ := hread
  exact eq_firstTerminals_of_isPrefix hreads.isPrefix

/-- What a run has consumed is the beginning of a word, since the stack derives the rest of one. -/
theorem Reaches.exists_generates
    (hg : g.WellFormed)
    (ht : t.Fits g)
    (hstart : g.start = .ok S)
    (hproductive : g.Productive)
    {s : σ} {limit : Nat}
    (h : Reaches src g t (Parser.start g s limit) events q) :
    ∃ later, g.Generates (consumed g events ++ later) := by
  obtain ⟨hlt, hterm⟩ := Grammar.start_eq_ok hstart
  have hderives := (h.leftmost ht).derives
  rw [(start_eq hstart s limit).2, hg.form_singleton hterm] at hderives
  have hsize := hderives.lt_size hg (by simpa using hlt)
  obtain ⟨later, hlater, hterminals⟩ :=
    hproductive.exists_word fun id hid => hsize id (List.mem_append_right _ hid)
  refine ⟨later, S, hstart, hderives.trans (hlater.append_left _), fun id hid => ?_⟩
  rcases List.mem_append.1 hid with hid | hid
  · exact terminal_of_mem_consumed hid
  · exact hterminals id hid

/-! ### Following a word -/

/-- A parser that is on the way to a word: it has consumed a beginning of it, and its stack spells the
rest. -/
structure OnTheWay (src : Source σ ε) (g : Grammar) (t : Table) (S : SymbolId)
    (ts word done : List SymbolId) (p : Parser σ) : Prop where
  ready : Ready src g t p (ts.drop done.length)
  derives : g.Derives [S] (done ++ form p.stack)
  spells : g.Spells p.stack (word.drop done.length) []

theorem onTheWay_start
    (hg : g.WellFormed)
    (hstart : g.start = .ok S)
    {s : σ}
    (hsource : src.Supplies s ts none)
    (limit : Nat)
    (hderives : g.Derives [S] word)
    (hword : ∀ id ∈ word, g.isTerminal id = true) :
    OnTheWay src g t S ts word [] (Parser.start g s limit) := by
  have hstack := (start_eq hstart s limit).2
  have hS : form [S] = [S] := hg.form_singleton (Grammar.start_eq_ok hstart).2
  refine ⟨ready_start hstart hsource limit, ?_, ?_⟩
  · rw [hstack, List.nil_append, hS]
    exact Grammar.Derives.refl [S]
  · rw [hstack]
    exact Grammar.spells_of_derives_word (hS.symm ▸ hderives) hword

/-- When the word agrees with the input in the next terminal, a step stays on the way to the word or
accepts. -/
theorem OnTheWay.step
    (hg : g.WellFormed)
    (ht : Table.ofGrammar g = .ok t)
    (hstart : g.start = .ok S)
    (hmarker : endMarker ∉ ts)
    (h : OnTheWay src g t S ts word done p)
    (hagree : ts.getD done.length endMarker = word.getD done.length endMarker) :
    (∃ events q, p.step src g t = (.ok events, q) ∧
        OnTheWay src g t S ts word (done ++ consumed g events) q) ∨
      (p.step src g t).2.status = .accepted := by
  rw [← headD_drop, ← headD_drop] at hagree
  have hready := h.ready
  have hderives := h.derives
  have hspells := h.spells
  generalize hleft : word.drop done.length = left at hagree hspells
  generalize hstack : p.stack = stack at hderives hspells
  generalize hrest : ([] : List SymbolId) = rest at hspells
  cases hspells with
  | done =>
      -- the word is at its end, and so is the input, which has no end marker of its own
      subst hrest
      have hnil := drop_eq_nil_of_headD hmarker hagree
      exact Or.inr (hready.finish hstack (Or.inl hnil))
  | drop hspells =>
      obtain ⟨events, q, hstep, hq, hqstack, hconsumed⟩ := hready.drop hstack
      refine Or.inl ⟨events, q, hstep, ?_⟩
      rw [hconsumed, List.append_nil]
      rw [form_epsilon_cons] at hderives
      exact ⟨hq, hqstack ▸ hderives, by rwa [hqstack, hleft, hrest]⟩
  | @emit a _ later _ heps hterm hspells =>
      obtain ⟨events, q, hstep, hq, hqstack, hconsumed⟩ :=
        hready.emit heps hterm hagree.symm hstack
      have hlater : word.drop (done ++ [a]).length = later := by
        rw [List.length_append, List.length_singleton, ← List.drop_drop, hleft, List.drop_one,
          List.tail_cons]
      refine Or.inl ⟨events, q, hstep, ?_⟩
      rw [hconsumed]
      rw [form_cons heps, List.append_cons] at hderives
      rw [List.drop_drop] at hq
      refine ⟨?_, hqstack ▸ hderives, by rwa [hqstack, hlater, hrest]⟩
      simpa using hq
  | expand hp hspells =>
      -- the spelling shows which production is in the cell
      subst hrest
      have hexposes := hspells.exposes_head
      rw [← hagree] at hexposes
      obtain ⟨events, q, hstep, hq, hqstack, hconsumed⟩ :=
        hready.predict hg ht hstart hp hderives hexposes hstack
      have hderives' := hderives.replace_top (hg.derives_rhs hp)
      refine Or.inl ⟨events, q, hstep, ?_⟩
      rw [hconsumed, List.append_nil]
      exact ⟨hq, hqstack ▸ hderives', by rwa [hqstack, hleft]⟩

/-- A parser stays on the way to a word while the word agrees with the input, the terminal that comes
next included, or it accepts. -/
theorem Reaches.onTheWay
    (hg : g.WellFormed)
    (ht : Table.ofGrammar g = .ok t)
    (hstart : g.start = .ok S)
    (hmarker : endMarker ∉ ts)
    (hp : OnTheWay src g t S ts word [] p)
    (h : Reaches src g t p events q)
    (hagree : ∀ i ≤ (consumed g events).length, ts.getD i endMarker = word.getD i endMarker) :
    OnTheWay src g t S ts word (consumed g events) q ∨ q.status = .accepted := by
  induction h with
  | refl =>
      exact Or.inl hp
  | @step events q h ih =>
      rw [consumed_append] at hagree ⊢
      have hle : (consumed g events).length ≤
          (consumed g events ++ consumed g ((q.step src g t).1.toOption.getD [])).length := by
        simp
      rcases ih fun i hi => hagree i (hi.trans hle) with hq | haccepted
      · rcases hq.step hg ht hstart hmarker (hagree _ hle) with ⟨others, q', hstep, hq'⟩ | haccepted
        · rw [hstep]
          exact Or.inl hq'
        · exact Or.inr haccepted
      · have hstopped : q.status ≠ .running := by
          simp [haccepted]
        rw [step_of_not_running hstopped]
        exact Or.inr haccepted

/-- **The valid-prefix property.**  With a table that was built, for a grammar in which every
non-terminal derives a word, a parser that rejects has consumed the first terminals of its input, with
end markers after it.  They are the beginning of some word of the grammar, with end markers after it;
with the terminal that comes next, they are the beginning of none. -/
theorem rejects_at_first_impossible_token
    (hg : g.Reachable)
    (ht : Table.ofGrammar g = .ok t)
    (hproductive : g.Productive)
    {s : σ}
    (hsource : src.Supplies s ts none)
    (hmarker : endMarker ∉ ts)
    (limit : Nat)
    (h : Reaches src g t (Parser.start g s limit) events q)
    {r : Rejection SymbolId}
    (hrejected : q.status = .rejected r)
    {k : Nat}
    (hk : (consumed g events).length = k) :
    consumed g events = firstTerminals k ts ∧
      (∃ w, g.Generates w ∧ ∃ j, firstTerminals k ts <+: w ++ List.replicate j endMarker) ∧
      ¬ ∃ w, g.Generates w ∧
        ∃ j, firstTerminals (k + 1) ts <+: w ++ List.replicate j endMarker := by
  subst hk
  have hwf := hg.wellFormed
  obtain ⟨S, hstart⟩ := Table.exists_start hwf ht
  have hread := h.consumed_eq_firstTerminals hstart hsource
  refine ⟨hread, ?_, ?_⟩
  · obtain ⟨later, hgenerates⟩ :=
      h.exists_generates hwf (Table.fits_of_ofGrammar ht) hstart hproductive
    refine ⟨_, hgenerates, 0, ?_⟩
    rw [← hread, List.replicate_zero, List.append_nil]
    exact List.prefix_append _ _
  · rintro ⟨w, ⟨S', hstart', hderives, hterminals⟩, hprefix⟩
    obtain rfl : S = S' := Except.ok.inj (hstart.symm.trans hstart')
    have hagree := eq_firstTerminals_of_isPrefix hprefix
    rw [length_firstTerminals] at hagree
    have hway := h.onTheWay hwf ht hstart hmarker
      (onTheWay_start hwf hstart hsource limit hderives hterminals)
      fun i hi => getD_eq_of_firstTerminals_eq hagree (Nat.lt_succ_of_le hi)
    rcases hway with hway | haccepted
    · rw [hway.ready.running] at hrejected
      cases hrejected
    · rw [haccepted] at hrejected
      cases hrejected

theorem productive_sums :
    Grammar.sums.Productive := by
  have hT : Grammar.sums.Spells [6] [3] [] :=
    .expand (p := ⟨6, [3]⟩) (by decide) (.emit (by decide) (by decide) (.done []))
  have hX : Grammar.sums.Spells [5] [] [] :=
    .expand (p := ⟨5, [1]⟩) (by decide) (.drop (.done []))
  have hE : Grammar.sums.Spells [4] [3] [] := by
    refine .expand (p := ⟨4, [6, 5]⟩) (by decide) ?_
    refine .expand (p := ⟨6, [3]⟩) (by decide) (.emit (by decide) (by decide) hX)
  have hg := Grammar.reachable_sums.wellFormed
  have hall : Grammar.sums.symbols.nonterminals = [4, 5, 6] := by
    decide +kernel
  intro A hA
  rw [hall] at hA
  simp only [List.mem_cons, List.not_mem_nil, or_false] at hA
  rcases hA with rfl | rfl | rfl
  · exact ⟨[3], hE.derives hg, by decide⟩
  · exact ⟨[], hX.derives hg, by decide⟩
  · exact ⟨[3], hT.derives hg, by decide⟩

/-- After `id PLUS` a name is missing: the end of the input is what cannot be right. -/
theorem rejects_at_first_impossible_token_sums :
    ((Parser.start Grammar.sums [.ok 3, .ok 2] defaultHistoryLimit).run (Source.ofList Unit)
        Grammar.sums Table.sums 20).parser.status = .rejected (.noProduction 6 endMarker) ∧
      (∃ w, Grammar.sums.Generates w ∧ ∃ j, [3, 2] <+: w ++ List.replicate j endMarker) ∧
      ¬ ∃ w, Grammar.sums.Generates w ∧
        ∃ j, [3, 2, endMarker] <+: w ++ List.replicate j endMarker := by
  have hrejected : ((Parser.start Grammar.sums [.ok 3, .ok 2] defaultHistoryLimit).run
      (Source.ofList Unit) Grammar.sums Table.sums 20).parser.status =
        .rejected (.noProduction 6 endMarker) := by
    decide +kernel
  have hconsumed : (consumed Grammar.sums
      ((Parser.start Grammar.sums [.ok 3, .ok 2] defaultHistoryLimit).run (Source.ofList Unit)
        Grammar.sums Table.sums 20).events.reverse).length = 2 := by
    decide +kernel
  exact ⟨hrejected, (rejects_at_first_impossible_token Grammar.reachable_sums
    Table.ofGrammar_sums productive_sums (Source.supplies_ofList [3, 2]) (by decide)
    defaultHistoryLimit (reaches_run _ _ _ 20 _) hrejected hconsumed).2⟩

end

end Parser

end PredictiveParsing

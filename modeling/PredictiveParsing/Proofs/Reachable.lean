import PredictiveParsing.Document.Loading
import Mathlib

/-!
# Grammars that declarations can make

A grammar grows by declarations: symbols are registered, the end marker is renamed, rules are added
and a start symbol is chosen.  A declaration that fails changes nothing, so only those that succeed
are counted here.

What every such grammar satisfies is gathered in `Grammar.WellFormed`: the two reserved symbols are
terminals, a left-hand side is a non-terminal, and no production mentions a number without a symbol.
The reason is the same for all of them.  A symbol keeps its kind once it is registered.

A grammar that is loaded from a document is made by such declarations (`Document.reachable_load`).
-/

namespace PredictiveParsing

/-- A computation in two parts that succeeds, succeeds in both. -/
theorem bind_eq_ok
    {ε α β : Type}
    {x : Except ε α} {f : α → Except ε β} {b : β}
    (h : x >>= f = .ok b) :
    ∃ a, x = .ok a ∧ f a = .ok b := by
  cases x with
  | error e =>
      cases h
  | ok a =>
      exact ⟨a, rfl, h⟩

namespace SymbolTable

theorem lt_size_of_id?
    {t : SymbolTable} {name : String} {id : SymbolId}
    (h : t.id? name = some id) :
    id < t.size := by
  obtain ⟨hlt, _⟩ := List.findIdx?_eq_some_iff_getElem.1 h
  exact hlt

theorem resolve_eq_ok_iff
    {t : SymbolTable} {name : String} {id : SymbolId} :
    t.resolve name = .ok id ↔ t.id? name = some id := by
  unfold resolve
  cases t.id? name <;> simp

theorem lt_size_of_resolve
    {t : SymbolTable} {name : String} {id : SymbolId}
    (h : t.resolve name = .ok id) :
    id < t.size :=
  lt_size_of_id? (resolve_eq_ok_iff.1 h)

theorem lt_size_of_isTerminal
    {t : SymbolTable} {id : SymbolId}
    (h : t.isTerminal id = true) :
    id < t.size := by
  by_contra hge
  have hnone : t.symbols[id]? = none :=
    List.getElem?_eq_none (Nat.le_of_not_lt hge)
  simp [isTerminal, kind?, hnone] at h

@[simp] theorem mem_nonterminals
    {t : SymbolTable} {id : SymbolId} :
    id ∈ t.nonterminals ↔ id < t.size ∧ t.isTerminal id = false := by
  simp [nonterminals, ids]

@[simp] theorem mem_terminals
    {t : SymbolTable} {id : SymbolId} :
    id ∈ t.terminals ↔ t.isTerminal id = true := by
  simp only [terminals, ids, List.mem_filter, List.mem_range]
  exact ⟨fun h => h.2, fun h => ⟨lt_size_of_isTerminal h, h⟩⟩

theorem nonterminals_length_le
    (t : SymbolTable) :
    t.nonterminals.length ≤ t.size := by
  have h := List.length_filter_le (fun id => !t.isTerminal id) t.ids
  simpa [nonterminals, ids] using h

theorem nonterminals_nodup
    (t : SymbolTable) :
    t.nonterminals.Nodup :=
  List.nodup_range.filter _

/-- A registration that succeeds adds one symbol at the end. -/
theorem register_eq_ok
    {t t' : SymbolTable} {name : String} {kind : SymbolKind} {id : SymbolId}
    (h : t.register name kind = .ok (id, t')) :
    id = t.size ∧ t' = { symbols := t.symbols ++ [{ name := name, kind := kind }] } := by
  unfold register at h
  split at h
  · cases h
  · cases h
    exact ⟨rfl, rfl⟩

theorem size_register
    {t t' : SymbolTable} {name : String} {kind : SymbolKind} {id : SymbolId}
    (h : t.register name kind = .ok (id, t')) :
    t'.size = t.size + 1 := by
  obtain ⟨_, rfl⟩ := register_eq_ok h
  simp [size]

theorem isTerminal_register
    {t t' : SymbolTable} {name : String} {kind : SymbolKind} {id other : SymbolId}
    (h : t.register name kind = .ok (id, t'))
    (hother : other < t.size) :
    t'.isTerminal other = t.isTerminal other := by
  obtain ⟨_, rfl⟩ := register_eq_ok h
  have hget :
      (t.symbols ++ [{ name := name, kind := kind : Symbol }])[other]? =
        t.symbols[other]? :=
    List.getElem?_append_left hother
  simp only [isTerminal, kind?, hget]

theorem setEndMarker_eq_ok
    {t t' : SymbolTable} {value : String}
    (h : t.setEndMarker value = .ok t') :
    t' = t ∨ t' = { symbols := t.symbols.set endMarker (endMarkerSymbol value) } := by
  unfold setEndMarker at h
  split at h
  · cases h
    exact Or.inl rfl
  · split at h
    · cases h
    · cases h
      exact Or.inr rfl

theorem size_setEndMarker
    {t t' : SymbolTable} {value : String}
    (h : t.setEndMarker value = .ok t') :
    t'.size = t.size := by
  rcases setEndMarker_eq_ok h with rfl | rfl
  · rfl
  · simp [size]

theorem isTerminal_setEndMarker
    {t t' : SymbolTable} {value : String}
    (h : t.setEndMarker value = .ok t')
    (hmarker : t.isTerminal endMarker = true)
    (id : SymbolId) :
    t'.isTerminal id = t.isTerminal id := by
  rcases setEndMarker_eq_ok h with rfl | rfl
  · rfl
  · by_cases hid : id = endMarker
    · subst hid
      have hlt : endMarker < t.symbols.length :=
        lt_size_of_isTerminal hmarker
      rw [hmarker]
      simp [isTerminal, kind?, List.getElem?_set_self hlt, endMarkerSymbol,
        SymbolKind.isTerminal]
    · have hne : endMarker ≠ id := Ne.symm hid
      simp only [isTerminal, kind?, List.getElem?_set_ne hne]

/-- The tables that registrations and renamings can make. -/
inductive Reachable : SymbolTable → Prop
  | initial : Reachable .initial
  | register
      {t t' : SymbolTable} {name : String} {kind : SymbolKind} {id : SymbolId}
      (ht : Reachable t)
      (h : t.register name kind = .ok (id, t')) :
      Reachable t'
  | setEndMarker
      {t t' : SymbolTable} {value : String}
      (ht : Reachable t)
      (h : t.setEndMarker value = .ok t') :
      Reachable t'

/-- The two reserved symbols are there, and they are terminals. -/
theorem Reachable.reserved
    {t : SymbolTable}
    (ht : Reachable t) :
    t.isTerminal endMarker = true ∧ t.isTerminal epsilon = true := by
  induction ht with
  | initial =>
      exact ⟨rfl, rfl⟩
  | @register t t' name kind id _ h ih =>
      obtain ⟨hmarker, heps⟩ := ih
      rw [isTerminal_register h (lt_size_of_isTerminal hmarker),
        isTerminal_register h (lt_size_of_isTerminal heps)]
      exact ⟨hmarker, heps⟩
  | @setEndMarker t t' value _ h ih =>
      obtain ⟨hmarker, heps⟩ := ih
      rw [isTerminal_setEndMarker h hmarker, isTerminal_setEndMarker h hmarker]
      exact ⟨hmarker, heps⟩

/-! ### Splitting gives registered symbols -/

theorem lt_size_of_mem_candidates
    {t : SymbolTable} {text : List Char} {c : SymbolId × Nat}
    (h : c ∈ t.candidates text) :
    c.1 < t.size := by
  obtain ⟨⟨s, id⟩, hmem, hc⟩ := List.mem_filterMap.1 h
  have hid : id < t.symbols.length := by
    have hlt := (List.mem_zipIdx hmem).2.1
    omega
  dsimp only at hc
  split at hc
  · cases hc
    exact hid
  · cases hc

theorem mem_of_longest
    {cs : List (SymbolId × Nat)} {c : SymbolId × Nat}
    (h : longest cs = some c) :
    c ∈ cs := by
  induction cs generalizing c with
  | nil =>
      cases h
  | cons d cs ih =>
      unfold longest at h
      split at h
      · rename_i e he
        split at h
        · cases h
          exact List.mem_cons_of_mem _ (ih he)
        · cases h
          exact List.mem_cons_self
      · cases h
        exact List.mem_cons_self

theorem lt_size_of_splitFrom
    (t : SymbolTable) (text : List Char) {ids : List SymbolId}
    (h : t.splitFrom text = .ok ids) :
    ∀ id ∈ ids, id < t.size := by
  fun_induction splitFrom t text generalizing ids with
  | case1 =>
      cases h
      simp
  | case2 =>
      cases h
  | case3 c rest id length hfound tail htail ih =>
      cases h
      intro other hother
      rcases List.mem_cons.1 hother with rfl | hother
      · exact lt_size_of_mem_candidates (mem_of_longest hfound)
      · exact ih htail other hother
  | case4 =>
      cases h

theorem lt_size_of_split
    {t : SymbolTable} {text : String} {ids : List SymbolId}
    (heps : t.isTerminal epsilon = true)
    (h : t.split text = .ok ids) :
    ∀ id ∈ ids, id < t.size := by
  unfold split at h
  split at h
  · cases h
    intro id hid
    rw [List.mem_singleton.1 hid]
    exact lt_size_of_isTerminal heps
  · split at h
    · rename_i found hfound
      cases h
      exact lt_size_of_splitFrom t _ hfound
    · cases h

end SymbolTable

namespace Grammar

/-- The grammars that declarations can make. -/
inductive Reachable : Grammar → Prop
  | initial : Reachable .initial
  | registerTerminal
      {g g' : Grammar} {name pattern : String} {id : SymbolId}
      (hg : Reachable g)
      (h : g.registerTerminal name pattern = .ok (id, g')) :
      Reachable g'
  | registerNonterminal
      {g g' : Grammar} {name : String} {id : SymbolId}
      (hg : Reachable g)
      (h : g.registerNonterminal name = .ok (id, g')) :
      Reachable g'
  | setEndMarker
      {g g' : Grammar} {value : String}
      (hg : Reachable g)
      (h : g.setEndMarker value = .ok g') :
      Reachable g'
  | addRule
      {g g' : Grammar} {antecedent consequent : String} {ix : Nat}
      (hg : Reachable g)
      (h : g.addRule antecedent consequent = .ok (ix, g')) :
      Reachable g'
  | setStart
      {g : Grammar} (name : String)
      (hg : Reachable g) :
      Reachable (g.setStart name)

/-- What the productions and the reserved symbols of a grammar have to be. -/
structure WellFormed (g : Grammar) : Prop where
  endMarker_terminal : g.isTerminal endMarker = true
  epsilon_terminal : g.isTerminal epsilon = true
  lhs_nonterminal : ∀ p ∈ g.productions, g.isTerminal p.lhs = false
  lhs_lt : ∀ p ∈ g.productions, p.lhs < g.symbols.size
  rhs_lt : ∀ p ∈ g.productions, ∀ id ∈ p.rhs, id < g.symbols.size

/-- A table that keeps the kinds of all symbols may replace the table of a grammar. -/
theorem WellFormed.of_symbols
    {g : Grammar} {t : SymbolTable}
    (hg : g.WellFormed)
    (hsize : g.symbols.size ≤ t.size)
    (hkind : ∀ id < g.symbols.size, t.isTerminal id = g.isTerminal id) :
    WellFormed { g with symbols := t } where
  endMarker_terminal := by
    have hlt := SymbolTable.lt_size_of_isTerminal hg.endMarker_terminal
    exact (hkind _ hlt).trans hg.endMarker_terminal
  epsilon_terminal := by
    have hlt := SymbolTable.lt_size_of_isTerminal hg.epsilon_terminal
    exact (hkind _ hlt).trans hg.epsilon_terminal
  lhs_nonterminal := by
    intro p hp
    exact (hkind _ (hg.lhs_lt p hp)).trans (hg.lhs_nonterminal p hp)
  lhs_lt := by
    intro p hp
    exact Nat.lt_of_lt_of_le (hg.lhs_lt p hp) hsize
  rhs_lt := by
    intro p hp id hid
    exact Nat.lt_of_lt_of_le (hg.rhs_lt p hp id hid) hsize

theorem WellFormed.of_register
    {g : Grammar} {t : SymbolTable} {name : String} {kind : SymbolKind} {id : SymbolId}
    (hg : g.WellFormed)
    (h : g.symbols.register name kind = .ok (id, t)) :
    WellFormed { g with symbols := t } := by
  refine hg.of_symbols ?_ ?_
  · rw [SymbolTable.size_register h]
    omega
  · intro other hother
    exact SymbolTable.isTerminal_register h hother

/-- A rule that is added stands at the end of the productions. -/
theorem addRule_eq_ok
    {g g' : Grammar} {antecedent consequent : String} {ix : Nat}
    (h : g.addRule antecedent consequent = .ok (ix, g')) :
    ∃ nt rhs,
      g.symbols.resolve antecedent = .ok nt ∧
      g.isTerminal nt = false ∧
      g.symbols.split consequent = .ok rhs ∧
      ix = g.productions.length ∧
      g' = { g with productions := g.productions ++ [{ lhs := nt, rhs := rhs }] } := by
  unfold addRule at h
  obtain ⟨nt, hnt, h⟩ := bind_eq_ok h
  by_cases hterm : g.isTerminal nt = true
  · simp only [hterm, if_true] at h
    cases h
  · simp only [hterm] at h
    obtain ⟨rhs, hrhs, h⟩ := bind_eq_ok h
    by_cases hhead : rhs.head? = some nt
    · simp only [hhead, if_true] at h
      cases h
    · simp only [hhead, if_false] at h
      cases h
      exact ⟨nt, rhs, hnt, by simpa using hterm, hrhs, rfl, rfl⟩

theorem WellFormed.of_production
    {g : Grammar} {p : Production}
    (hg : g.WellFormed)
    (hterm : g.isTerminal p.lhs = false)
    (hlhs : p.lhs < g.symbols.size)
    (hrhs : ∀ id ∈ p.rhs, id < g.symbols.size) :
    WellFormed { g with productions := g.productions ++ [p] } := by
  have hnew : ∀ q ∈ g.productions ++ [p], q ∈ g.productions ∨ q = p := by
    simp
  refine { hg with lhs_nonterminal := ?_, lhs_lt := ?_, rhs_lt := ?_ }
  · intro q hq
    rcases hnew q hq with hq | rfl
    · exact hg.lhs_nonterminal q hq
    · exact hterm
  · intro q hq
    rcases hnew q hq with hq | rfl
    · exact hg.lhs_lt q hq
    · exact hlhs
  · intro q hq
    rcases hnew q hq with hq | rfl
    · exact hg.rhs_lt q hq
    · exact hrhs

/-- Every grammar that declarations can make is well formed. -/
theorem Reachable.wellFormed
    {g : Grammar}
    (hg : g.Reachable) :
    g.WellFormed := by
  induction hg with
  | initial =>
      exact {
        endMarker_terminal := rfl
        epsilon_terminal := rfl
        lhs_nonterminal := by simp [Grammar.initial]
        lhs_lt := by simp [Grammar.initial]
        rhs_lt := by simp [Grammar.initial] }
  | @registerTerminal g g' name pattern id _ h ih =>
      obtain ⟨⟨_, t⟩, ht, h⟩ := bind_eq_ok h
      cases h
      exact ih.of_register ht
  | @registerNonterminal g g' name id _ h ih =>
      obtain ⟨⟨_, t⟩, ht, h⟩ := bind_eq_ok h
      cases h
      exact ih.of_register ht
  | @setEndMarker g g' value _ h ih =>
      obtain ⟨t, ht, h⟩ := bind_eq_ok h
      cases h
      refine ih.of_symbols ?_ ?_
      · exact (SymbolTable.size_setEndMarker ht).ge
      · intro id _
        exact SymbolTable.isTerminal_setEndMarker ht ih.endMarker_terminal id
  | @addRule g g' antecedent consequent ix _ h ih =>
      obtain ⟨nt, rhs, hnt, hterm, hrhs, _, rfl⟩ := addRule_eq_ok h
      exact ih.of_production hterm (SymbolTable.lt_size_of_resolve hnt)
        (SymbolTable.lt_size_of_split ih.epsilon_terminal hrhs)
  | @setStart g name _ ih =>
      exact { ih with }

theorem Reachable.symbols
    {g : Grammar}
    (hg : g.Reachable) :
    g.symbols.Reachable := by
  induction hg with
  | initial =>
      exact SymbolTable.Reachable.initial
  | registerTerminal _ h ih =>
      obtain ⟨⟨_, t⟩, ht, h⟩ := bind_eq_ok h
      cases h
      exact ih.register ht
  | registerNonterminal _ h ih =>
      obtain ⟨⟨_, t⟩, ht, h⟩ := bind_eq_ok h
      cases h
      exact ih.register ht
  | setEndMarker _ h ih =>
      obtain ⟨t, ht, h⟩ := bind_eq_ok h
      cases h
      exact ih.setEndMarker ht
  | addRule _ h ih =>
      obtain ⟨_, _, _, _, _, _, rfl⟩ := addRule_eq_ok h
      exact ih
  | setStart _ _ ih =>
      exact ih

end Grammar

/-! ### Loaded grammars -/

namespace Loading

theorem map_snd_eq_ok
    {ε α β : Type}
    {x : Except ε (α × β)} {b : β}
    (h : x.map Prod.snd = .ok b) :
    ∃ a, x = .ok (a, b) := by
  cases x with
  | error e =>
      cases h
  | ok pair =>
      cases h
      exact ⟨pair.1, rfl⟩

theorem reachable_declareSymbol
    {g g' : Grammar} {d : Declaration}
    (hg : g.Reachable)
    (h : declareSymbol g d = .ok g') :
    g'.Reachable := by
  cases d with
  | terminal name pattern =>
      obtain ⟨_, h⟩ := map_snd_eq_ok h
      exact hg.registerTerminal h
  | nonterminal name =>
      obtain ⟨_, h⟩ := map_snd_eq_ok h
      exact hg.registerNonterminal h
  | start name =>
      cases h
      exact hg.setStart name
  | endMarker value =>
      exact hg.setEndMarker h
  | rule antecedent consequent =>
      cases h
      exact hg

theorem reachable_declareAntecedent
    {g g' : Grammar} {d : Declaration}
    (hg : g.Reachable)
    (h : declareAntecedent g d = .ok g') :
    g'.Reachable := by
  unfold declareAntecedent at h
  split at h
  · split at h
    · cases h
      exact hg
    · obtain ⟨_, h⟩ := map_snd_eq_ok h
      exact hg.registerNonterminal h
  · cases h
    exact hg

theorem reachable_declareRule
    {g g' : Grammar} {d : Declaration}
    (hg : g.Reachable)
    (h : declareRule g d = .ok g') :
    g'.Reachable := by
  unfold declareRule at h
  split at h
  · obtain ⟨_, h⟩ := map_snd_eq_ok h
    exact hg.addRule h
  · cases h
    exact hg

theorem reachable_pass
    {declare : Grammar → Declaration → Except Fault Grammar}
    (hdeclare : ∀ g g' d, g.Reachable → declare g d = .ok g' → g'.Reachable)
    {l : Loading}
    (hl : l.grammar.Reachable)
    (document : Document) :
    (pass declare l document).grammar.Reachable := by
  refine List.foldlRecOn (motive := fun l : Loading => l.grammar.Reachable) document _ hl ?_
  intro l hl d _
  unfold step
  split
  · rename_i g hg
    exact hdeclare _ _ _ hl hg
  · exact hl

end Loading

/-- Loading a document makes a grammar by declarations, whatever goes wrong on the way. -/
theorem Document.reachable_load
    (document : Document) :
    document.load.grammar.Reachable := by
  unfold Document.load
  refine Loading.reachable_pass (fun _ _ _ => Loading.reachable_declareRule) ?_ document
  refine Loading.reachable_pass (fun _ _ _ => Loading.reachable_declareAntecedent) ?_ document
  refine Loading.reachable_pass (fun _ _ _ => Loading.reachable_declareSymbol) ?_ document
  exact Grammar.Reachable.initial

namespace Grammar

theorem reachable_of_ofText
    {text : String} {g : Grammar}
    (h : ofText text = .ok g) :
    g.Reachable := by
  obtain ⟨document, _, h⟩ := bind_eq_ok h
  unfold Loading.result at h
  split at h
  · cases h
    exact document.reachable_load
  · cases h

/-- Sums of identifiers, with the numbers 2 `PLUS`, 3 `id`, 4 `E`, 5 `X` and 6 `T`. -/
def sums : Grammar where
  symbols :=
    { symbols :=
        [SymbolTable.endMarkerSymbol "$", ⟨epsilonName, .terminal epsilonName⟩,
          ⟨"PLUS", .terminal "\\+"⟩, ⟨"id", .terminal "[a-z]+"⟩,
          ⟨"E", .nonterminal⟩, ⟨"X", .nonterminal⟩, ⟨"T", .nonterminal⟩] }
  productions := [⟨4, [6, 5]⟩, ⟨5, [2, 6, 5]⟩, ⟨5, [1]⟩, ⟨6, [3]⟩]
  startName := some "E"

theorem reachable_sums :
    sums.Reachable := by
  have h : ofText
      ("terminal PLUS \\+;\nterminal id [a-z]+;\nstart with E;\n;\n" ++
        "E -> TX;\nX -> PLUSTX;\nX -> EPSILON;\nT -> id;\n;\n") = .ok sums := by
    cbv
  exact reachable_of_ofText h

end Grammar
end PredictiveParsing

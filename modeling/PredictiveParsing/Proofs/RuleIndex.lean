import PredictiveParsing.Proofs.Reordering
import PredictiveParsing.Proofs.Splitting
import Mathlib.Tactic

/-!
# The rules and their index

A grammar can be kept in place, with an index beside its productions that lists, for each
non-terminal, where its productions stand.  `Ledger` is such a grammar.  A rule is added to it in
two steps, first to the productions and then to the index, and whatever a declaration has written
when it fails stays written.

The index is never out of step with the productions (`Ledger.ask_ofGrammar`): everything that can
fail comes before the first of the two steps, and the second one makes the entries that are read off
the productions (`Grammar.rules_addProduction`).
-/

namespace PredictiveParsing

section

variable {nt : SymbolId} {ix : Nat}

/-! ### Entries of an index -/

/-- Appends a place to the entry of a non-terminal, which is made if there is none. -/
def enterIn (nt : SymbolId) (ix : Nat) : List (SymbolId × List Nat) → List (SymbolId × List Nat)
  | [] => [(nt, [ix])]
  | (other, ixs) :: rules =>
      if other = nt then (other, ixs ++ [ix]) :: rules else (other, ixs) :: enterIn nt ix rules

theorem enterIn_map_of_mem
    {nts : List SymbolId}
    (hnodup : nts.Nodup)
    (hnt : nt ∈ nts)
    (places : SymbolId → List Nat) :
    enterIn nt ix (nts.map fun a => (a, places a)) =
      nts.map fun a => (a, places a ++ if nt = a then [ix] else []) := by
  induction nts with
  | nil =>
      cases hnt
  | cons a nts ih =>
      obtain ⟨ha, hnodup⟩ := List.nodup_cons.1 hnodup
      rw [List.map_cons, enterIn, List.map_cons]
      by_cases hsame : a = nt
      · subst hsame
        rw [if_pos rfl, if_pos rfl]
        congr 1
        refine List.map_congr_left fun b hb => ?_
        have hne : a ≠ b := by
          rintro rfl
          exact ha hb
        rw [if_neg hne, List.append_nil]
      · rw [if_neg hsame, if_neg (Ne.symm hsame), List.append_nil]
        rw [ih hnodup ((List.mem_cons.1 hnt).resolve_left (Ne.symm hsame))]

theorem enterIn_map_of_not_mem
    {nts : List SymbolId}
    (hnt : nt ∉ nts)
    (places : SymbolId → List Nat) :
    enterIn nt ix (nts.map fun a => (a, places a)) =
      (nts.map fun a => (a, places a)) ++ [(nt, [ix])] := by
  induction nts with
  | nil =>
      rfl
  | cons a nts ih =>
      rw [List.mem_cons, not_or] at hnt
      rw [List.map_cons, enterIn, if_neg (Ne.symm hnt.1), ih hnt.2, List.cons_append]

/-- An entry for each non-terminal with a production, and none for others.  The places of an entry
are in ascending order. -/
structure Indexes (rules : List (SymbolId × List Nat)) (ps : List Production) : Prop where
  keys_nodup : (rules.map Prod.fst).Nodup
  mem_keys : ∀ nt, nt ∈ rules.map Prod.fst ↔ ∃ p ∈ ps, p.lhs = nt
  ascending : ∀ e ∈ rules, e.2.Pairwise (· < ·)
  mem_entry : ∀ e ∈ rules, ∀ ix, ix ∈ e.2 ↔ ∃ p, ps[ix]? = some p ∧ p.lhs = e.1

end

namespace Grammar

section

variable {g : Grammar} {nt : SymbolId} {p : Production}

/-! ### The index that is read off the productions -/

theorem productionsOf_pairwise
    (g : Grammar) (nt : SymbolId) :
    (g.productionsOf nt).Pairwise (· < ·) :=
  g.indicesWhere_pairwise _

theorem mem_antecedents :
    nt ∈ g.antecedents ↔ ∃ p ∈ g.productions, p.lhs = nt := by
  rw [antecedents, List.mem_eraseDups, List.mem_map]

theorem productionsOf_addProduction
    (g : Grammar) (p : Production) (nt : SymbolId) :
    (g.addProduction p).productionsOf nt =
      g.productionsOf nt ++ if p.lhs = nt then [g.productions.length] else [] := by
  by_cases h : p.lhs = nt <;>
    simp [productionsOf, indicesWhere, addProduction, List.zipIdx_append, h]

theorem antecedents_addProduction
    (g : Grammar) (p : Production) :
    (g.addProduction p).antecedents =
      if p.lhs ∈ g.antecedents then g.antecedents else g.antecedents ++ [p.lhs] := by
  simp only [antecedents, addProduction, List.map_append, List.eraseDups_append, List.mem_eraseDups]
  by_cases h : p.lhs ∈ g.productions.map Production.lhs
  · rw [if_pos h]
    simp only [List.map_singleton, List.removeAll, List.filter_singleton, List.elem_eq_mem, h]
    simp
  · rw [if_neg h]
    simp only [List.map_singleton, List.removeAll, List.filter_singleton, List.elem_eq_mem, h]
    rfl

theorem antecedents_nodup
    (g : Grammar) :
    g.antecedents.Nodup := by
  obtain ⟨symbols, ps, startName⟩ := g
  induction ps using List.reverseRecOn with
  | nil =>
      exact List.nodup_nil
  | append_singleton ps p ih =>
      change (addProduction ⟨symbols, ps, startName⟩ p).antecedents.Nodup
      rw [antecedents_addProduction]
      split
      · exact ih
      · rename_i hnew
        exact ih.append (List.nodup_singleton _) (List.disjoint_singleton.2 hnew)

/-- A production that is added is entered under its left-hand side, and nowhere else. -/
theorem rules_addProduction
    (g : Grammar) (p : Production) :
    (g.addProduction p).rules = enterIn p.lhs g.productions.length g.rules := by
  rw [rules, rules, antecedents_addProduction]
  simp only [productionsOf_addProduction]
  by_cases hnt : p.lhs ∈ g.antecedents
  · rw [if_pos hnt, enterIn_map_of_mem g.antecedents_nodup hnt]
  · have hempty : g.productionsOf p.lhs = [] :=
      productionsOf_eq_nil_iff.2 fun q hq heq => hnt (mem_antecedents.2 ⟨q, hq, heq⟩)
    rw [if_neg hnt, enterIn_map_of_not_mem hnt, List.map_append]
    congr 1
    · refine List.map_congr_left fun a ha => ?_
      have hne : p.lhs ≠ a := by
        rintro rfl
        exact hnt ha
      rw [if_neg hne, List.append_nil]
    · simp [hempty]

theorem indexes_rules
    (g : Grammar) :
    Indexes g.rules g.productions := by
  have hkeys : g.rules.map Prod.fst = g.antecedents := by
    simp [rules, Function.comp_def]
  refine ⟨?_, fun nt => ?_, fun e he => ?_, fun e he ix => ?_⟩
  · rw [hkeys]
    exact g.antecedents_nodup
  · rw [hkeys, mem_antecedents]
  · obtain ⟨nt, _, rfl⟩ := List.mem_map.1 he
    exact g.productionsOf_pairwise nt
  · obtain ⟨nt, _, rfl⟩ := List.mem_map.1 he
    exact mem_productionsOf

/-! ### The productions -/

/-- A production of a registered non-terminal.  Its right-hand side consists of registered symbols,
and there is a first one, which is not the non-terminal itself. -/
structure Admits (g : Grammar) (p : Production) : Prop where
  lhs_mem : p.lhs ∈ g.symbols.nonterminals
  rhs_lt : ∀ id ∈ p.rhs, id < g.symbols.size
  rhs_begins : ∃ first rest, p.rhs = first :: rest ∧ first ≠ p.lhs

theorem Admits.rhs_ne_nil
    (h : g.Admits p) :
    p.rhs ≠ [] := by
  obtain ⟨first, rest, hbegins, _⟩ := h.rhs_begins
  rw [hbegins]
  exact List.cons_ne_nil _ _

theorem Admits.head_ne
    (h : g.Admits p) :
    p.rhs.head? ≠ some p.lhs := by
  obtain ⟨first, rest, hbegins, hne⟩ := h.rhs_begins
  rw [hbegins, List.head?_cons]
  exact fun heq => hne (Option.some.inj heq)

/-- A rule whose two sides are found adds the production of the two, if the grammar may have it. -/
theorem Admits.addRule
    {antecedent consequent : String}
    (h : g.Admits p)
    (hlhs : g.symbols.resolve antecedent = .ok p.lhs)
    (hrhs : g.symbols.split consequent = .ok p.rhs) :
    g.addRule antecedent consequent = .ok (g.productions.length, g.addProduction p) := by
  have hterm : g.isTerminal p.lhs = false := (SymbolTable.mem_nonterminals.1 h.lhs_mem).2
  simp only [Grammar.addRule, hlhs, hrhs, bind, Except.bind, hterm, h.head_ne, if_false]
  rfl

theorem Reachable.rhs_begins
    (hg : g.Reachable) :
    ∀ p ∈ g.productions, ∃ first rest, p.rhs = first :: rest ∧ first ≠ p.lhs := by
  induction hg with
  | initial =>
      simp [Grammar.initial]
  | registerTerminal _ h ih | registerNonterminal _ h ih =>
      obtain ⟨⟨_, t⟩, _, h⟩ := bind_eq_ok h
      cases h
      exact ih
  | setEndMarker _ h ih =>
      obtain ⟨t, _, h⟩ := bind_eq_ok h
      cases h
      exact ih
  | addRule _ h ih =>
      obtain ⟨nt, rhs, hlhs, hterm, hrhs, _, rfl⟩ := addRule_eq_ok h
      have hhead := head_ne_of_addRule h hlhs hterm hrhs
      intro p hp
      rcases List.mem_append.1 hp with hp | hp
      · exact ih p hp
      · obtain rfl := List.mem_singleton.1 hp
        cases rhs with
        | nil =>
            exact absurd rfl (SymbolTable.split_ne_nil hrhs)
        | cons first rest =>
            exact ⟨first, rest, rfl, fun heq => hhead (by rw [List.head?_cons, heq])⟩
  | setStart _ _ ih =>
      exact ih

theorem Reachable.admits
    (hg : g.Reachable)
    (hp : p ∈ g.productions) :
    g.Admits p where
  lhs_mem := SymbolTable.mem_nonterminals.2
    ⟨hg.wellFormed.lhs_lt p hp, hg.wellFormed.lhs_nonterminal p hp⟩
  rhs_lt := hg.wellFormed.rhs_lt p hp
  rhs_begins := hg.rhs_begins p hp

/-- No declaration moves or takes away a production. -/
theorem productions_prefix_asked
    (g : Grammar) (ds : List Declaration) :
    g.productions <+: (inTurn ask g ds).2.productions := by
  refine inTurn_invariant (P := fun g' : Grammar => g.productions <+: g'.productions)
    (List.prefix_refl _) ds fun g' d _ hg' => ?_
  have h := g'.ask_effect d
  generalize g'.ask d = asked at h ⊢
  cases h with
  | symbols | start | refused =>
      exact hg'
  | added =>
      exact hg'.trans (List.prefix_append _ _)

/-- A rule that succeeds has added one production, the last. -/
theorem eq_of_ask_rule
    {antecedent consequent : String} {ix : Option Nat} {g' : Grammar}
    (h : g.ask (.rule antecedent consequent) = (.ok ix, g')) :
    ix = some g.productions.length ∧
      ∃ p, g.symbols.resolve antecedent = .ok p.lhs ∧ g.symbols.split consequent = .ok p.rhs ∧
        g' = g.addProduction p := by
  have heffect := g.ask_effect (.rule antecedent consequent)
  generalize g.ask (.rule antecedent consequent) = asked at h heffect
  cases heffect with
  | symbols hd | start hd =>
      cases hd
  | added hd hlhs _ hrhs _ =>
      cases hd
      cases h
      exact ⟨rfl, _, hlhs, hrhs, rfl⟩
  | refused =>
      cases h

end

end Grammar

/-! ### The ledger -/

/-- A grammar with an index of its productions. -/
structure Ledger extends Grammar where
  rules : List (SymbolId × List Nat) := []
deriving DecidableEq, Repr

namespace Ledger

/-- The ledger before any declaration. -/
def initial : Ledger where
  toGrammar := .initial

def pushProduction (l : Ledger) (p : Production) : Ledger :=
  { l with productions := l.productions ++ [p] }

def enter (l : Ledger) (nt : SymbolId) (ix : Nat) : Ledger :=
  { l with rules := enterIn nt ix l.rules }

/-- Changes made in place, which stay also if the rest of them fails. -/
abbrev Edit (α : Type) : Type :=
  EStateM Fault Ledger α

def askSymbols (r : SymbolTable.Request) : Edit (Option SymbolId) := do
  let (answer, symbols) := (← get).symbols.ask r
  modify ({ · with symbols := symbols })
  MonadExcept.ofExcept answer

/-- The non-terminal of a name. -/
def findNonterminal (name : String) : Edit SymbolId := do
  let nt ← MonadExcept.ofExcept ((← get).symbols.resolve name)
  if (← get).isTerminal nt then throw (.notNonterminal name) else return nt

/-- The right-hand side of a rule for a non-terminal. -/
def findRhs (nt : SymbolId) (antecedent consequent : String) : Edit (List SymbolId) := do
  let rhs ← MonadExcept.ofExcept ((← get).symbols.split consequent)
  if rhs.head? = some nt then throw (.leftRecursion antecedent ((← get).showSymbols rhs))
  else return rhs

def addRule (antecedent consequent : String) : Edit Nat := do
  let nt ← findNonterminal antecedent
  let rhs ← findRhs nt antecedent consequent
  let ix := (← get).productions.length
  modify (·.pushProduction { lhs := nt, rhs := rhs })
  modify (·.enter nt ix)
  return ix

def carryOut : Declaration → Edit (Option Nat)
  | .terminal name pattern => askSymbols (.terminal name pattern)
  | .nonterminal name => askSymbols (.nonterminal name)
  | .endMarker value => askSymbols (.endMarker value)
  | .start name => do
      modify ({ · with startName := some name })
      return none
  | .rule antecedent consequent => do
      return some (← addRule antecedent consequent)

def ask (l : Ledger) (d : Declaration) : Except Fault (Option Nat) × Ledger :=
  ofResult ((carryOut d).run l)

/-- The ledger of a grammar, with the index that is read off the productions. -/
def ofGrammar (g : Grammar) : Ledger where
  toGrammar := g
  rules := g.rules

section

variable {g : Grammar} {l : Ledger}

theorem run_askSymbols
    (g : Grammar) (r : SymbolTable.Request) :
    (askSymbols r).run (ofGrammar g) =
      match (g.symbols.ask r).1 with
      | .ok answer => .ok answer (ofGrammar { g with symbols := (g.symbols.ask r).2 })
      | .error fault => .error fault (ofGrammar { g with symbols := (g.symbols.ask r).2 }) := by
  change EStateM.run (MonadExcept.ofExcept (g.symbols.ask r).1 : Edit _)
    (ofGrammar { g with symbols := (g.symbols.ask r).2 }) = _
  cases (g.symbols.ask r).1 <;> rfl

/-- The two steps of adding a rule make the ledger of the grammar with one more production. -/
theorem enter_pushProduction
    (g : Grammar) (p : Production) :
    ((ofGrammar g).pushProduction p).enter p.lhs g.productions.length =
      ofGrammar (g.addProduction p) := by
  change Ledger.mk (g.addProduction p) (enterIn p.lhs g.productions.length g.rules) = _
  rw [← g.rules_addProduction, ofGrammar]

theorem run_findNonterminal
    (l : Ledger) (name : String) :
    (findNonterminal name).run l =
      match l.symbols.resolve name with
      | .ok nt => if l.isTerminal nt then .error (.notNonterminal name) l else .ok nt l
      | .error fault => .error fault l := by
  change EStateM.run (MonadExcept.ofExcept (l.symbols.resolve name) >>= _ : Edit _) l = _
  cases l.symbols.resolve name with
  | error fault =>
      rfl
  | ok nt =>
      change EStateM.run (if l.isTerminal nt then _ else _ : Edit _) l = _
      dsimp only
      split <;> rfl

theorem run_findRhs
    (l : Ledger) (nt : SymbolId) (antecedent consequent : String) :
    (findRhs nt antecedent consequent).run l =
      match l.symbols.split consequent with
      | .ok rhs =>
          if rhs.head? = some nt then .error (.leftRecursion antecedent (l.showSymbols rhs)) l
          else .ok rhs l
      | .error fault => .error fault l := by
  change EStateM.run (MonadExcept.ofExcept (l.symbols.split consequent) >>= _ : Edit _) l = _
  cases l.symbols.split consequent with
  | error fault =>
      rfl
  | ok rhs =>
      change EStateM.run (if rhs.head? = some nt then _ else _ : Edit _) l = _
      dsimp only
      split <;> rfl

/-- A rule is added to the ledger of a grammar, or refused, as it is by the grammar. -/
theorem run_addRule
    (g : Grammar) (antecedent consequent : String) :
    (addRule antecedent consequent).run (ofGrammar g) =
      match g.addRule antecedent consequent with
      | .ok (ix, g') => .ok ix (ofGrammar g')
      | .error fault => .error fault (ofGrammar g) := by
  have hsymbols : (ofGrammar g).symbols = g.symbols := rfl
  have hgrammar : (ofGrammar g).toGrammar = g := rfl
  rw [addRule, EStateM.run_bind, run_findNonterminal, Grammar.addRule, hsymbols, hgrammar]
  cases g.symbols.resolve antecedent with
  | error fault =>
      rfl
  | ok nt =>
      cases hterm : g.isTerminal nt with
      | true =>
          simp only [bind, Except.bind, hterm]
          rfl
      | false =>
          simp only [hterm, Bool.false_eq_true, if_false]
          rw [EStateM.run_bind, run_findRhs, hsymbols, hgrammar]
          cases g.symbols.split consequent with
          | error fault =>
              simp only [bind, Except.bind, hterm]
              rfl
          | ok rhs =>
              by_cases hhead : rhs.head? = some nt
              · simp only [bind, Except.bind, hterm, hhead, if_true]
                rfl
              · simp only [bind, Except.bind, hterm, hhead, if_false]
                exact congrArg (EStateM.Result.ok _) (enter_pushProduction g ⟨nt, rhs⟩)

/-- The ledger of a grammar answers a declaration as the grammar does, and it is the ledger of what
the grammar has become. -/
theorem ask_ofGrammar
    (g : Grammar) (d : Declaration) :
    (ofGrammar g).ask d = ((g.ask d).1, ofGrammar (g.ask d).2) := by
  have hrequest : ∀ r, Grammar.request? d = some r → carryOut d = askSymbols r →
      (ofGrammar g).ask d = ((g.ask d).1, ofGrammar (g.ask d).2) := by
    intro r hd hcarry
    rw [ask, hcarry, run_askSymbols, Grammar.ask_of_request g hd]
    cases (g.symbols.ask r).1 <;> rfl
  cases d with
  | terminal name pattern | nonterminal name | endMarker value =>
      exact hrequest _ rfl rfl
  | start name =>
      rfl
  | rule antecedent consequent =>
      rw [ask, carryOut, EStateM.run_bind, run_addRule, Grammar.ask, Grammar.carryOut]
      cases g.addRule antecedent consequent <;> rfl

/-- A whole run of declarations is answered alike. -/
theorem asked_ofGrammar
    (g : Grammar) (ds : List Declaration) :
    inTurn ask (ofGrammar g) ds =
      ((inTurn Grammar.ask g ds).1, ofGrammar (inTurn Grammar.ask g ds).2) := by
  induction ds generalizing g with
  | nil =>
      rfl
  | cons d ds ih =>
      simp only [inTurn, ask_ofGrammar, ih]

/-- A declaration that fails has written nothing. -/
theorem unchanged_of_error
    {d : Declaration} {fault : Fault}
    (h : ((ofGrammar g).ask d).1 = .error fault) :
    ((ofGrammar g).ask d).2 = ofGrammar g := by
  rw [ask_ofGrammar] at h ⊢
  rw [Grammar.ask, unchanged_of_answered h]

end

end Ledger

namespace Grammar

/-- **Grammars at all times.**  After any declarations, with or without success, every production
has a registered non-terminal on the left, and registered symbols on the right, of which there is a
first one and it is not that non-terminal.  The index that is kept beside the productions has an
entry for each non-terminal with a production, for no other symbol, and each entry lists the places
of its productions in ascending order; it is the index that is read off the productions.  A rule
that is added stands at the end, where its answer says it stands, no later declaration moves a
production, and a declaration that fails has written nothing. -/
theorem rules_always_indexed
    (ds : List Declaration) :
    ∃ answers l,
      inTurn Ledger.ask .initial ds = (answers, l) ∧
      inTurn ask .initial ds = (answers, l.toGrammar) ∧
      (∀ p ∈ l.productions, l.Admits p) ∧
      Indexes l.rules l.productions ∧
      l.rules = l.toGrammar.rules ∧
      (∀ antecedent consequent ix l',
        l.ask (.rule antecedent consequent) = (.ok ix, l') →
          ix = some l.productions.length ∧
          ∃ p, l.symbols.resolve antecedent = .ok p.lhs ∧ l.symbols.split consequent = .ok p.rhs ∧
            l'.toGrammar = l.addProduction p) ∧
      (∀ later, l.productions <+: (inTurn Ledger.ask l later).2.productions) ∧
      (∀ d fault, (l.ask d).1 = .error fault → (l.ask d).2 = l) := by
  have hg : (inTurn ask .initial ds).2.Reachable := Reachable.initial.asked ds
  refine ⟨_, .ofGrammar (inTurn ask .initial ds).2, Ledger.asked_ofGrammar .initial ds, rfl, ?_⟩
  generalize (inTurn ask .initial ds).2 = g at hg
  refine ⟨fun p hp => hg.admits hp, g.indexes_rules, rfl, ?_, fun later => ?_, fun d fault => ?_⟩
  · intro antecedent consequent ix l' hl'
    rw [Ledger.ask_ofGrammar] at hl'
    obtain ⟨hix, p, hlhs, hrhs, hg'⟩ := eq_of_ask_rule (Prod.ext (Prod.mk.inj hl').1 rfl)
    exact ⟨hix, p, hlhs, hrhs, by rw [← (Prod.mk.inj hl').2]; exact hg'⟩
  · rw [Ledger.asked_ofGrammar]
    exact g.productions_prefix_asked later
  · exact Ledger.unchanged_of_error

/-- The rule that begins with its own non-terminal fails, and so does the one with a name that
nobody has. The first rule keeps the end marker when `$` becomes the name of another symbol. -/
theorem rules_always_indexed_renamed :
    ∃ answers l,
      inTurn Ledger.ask .initial [.nonterminal "S", .terminal "a" "b+", .rule "S" "aS$",
        .rule "S" "Sa", .endMarker "END", .nonterminal "$", .rule "S" "$", .rule "S" "b",
        .rule "$" ""] = (answers, l) ∧
      l.productions = [⟨2, [3, 2, endMarker]⟩, ⟨2, [4]⟩, ⟨4, [epsilon]⟩] ∧
      l.rules = [(2, [0, 1]), (4, [2])] ∧
      ∀ later, l.productions <+: (inTurn Ledger.ask l later).2.productions := by
  obtain ⟨answers, l, hrun, _, _, _, hrules, _, hlater, _⟩ := rules_always_indexed
    [.nonterminal "S", .terminal "a" "b+", .rule "S" "aS$", .rule "S" "Sa", .endMarker "END",
      .nonterminal "$", .rule "S" "$", .rule "S" "b", .rule "$" ""]
  have hproductions : l.productions = [⟨2, [3, 2, endMarker]⟩, ⟨2, [4]⟩, ⟨4, [epsilon]⟩] := by
    rw [← show _ = l from congrArg Prod.snd hrun]
    decide +kernel
  refine ⟨answers, l, hrun, hproductions, ?_, hlater⟩
  rw [hrules]
  simp only [rules, antecedents, productionsOf, indicesWhere, hproductions]
  decide

end Grammar
end PredictiveParsing

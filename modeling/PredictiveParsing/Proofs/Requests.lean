import PredictiveParsing.Proofs.Naming
import Mathlib.Tactic

/-!
# Requests

Symbol tables and grammars are changed by requests, one after the other.  A request has an answer,
which is a fault or the number of what is new, and it leaves something for the next request; a
request that fails leaves what was there before.  `inTurn` is a whole run of requests.

What one request does to a table is said once, in `SymbolTable.ask_effect`.
-/

namespace PredictiveParsing

section

variable {σ τ ρ α : Type}

/-- What a request answers, and what is left after it. -/
def answered (before : σ) : Except Fault (α × σ) → Except Fault α × σ
  | .ok (answer, after) => (.ok answer, after)
  | .error fault => (.error fault, before)

theorem unchanged_of_answered
    {before : σ} {x : Except Fault (α × σ)} {fault : Fault}
    (h : (answered before x).1 = .error fault) :
    (answered before x).2 = before := by
  cases x with
  | error f =>
      rfl
  | ok asked =>
      cases h

/-- The same of a computation that changes things in place.  What it has written when it fails is
left. -/
def ofResult : EStateM.Result Fault σ α → Except Fault α × σ
  | .ok answer after => (.ok answer, after)
  | .error fault after => (.error fault, after)

/-- Requests one after the other: their answers, and what is left after the last one. -/
def inTurn (ask : σ → ρ → α × σ) : σ → List ρ → List α × σ
  | s, [] => ([], s)
  | s, r :: rs =>
      ((ask s r).1 :: (inTurn ask (ask s r).2 rs).1, (inTurn ask (ask s r).2 rs).2)

/-- What every request keeps, a run keeps. -/
theorem inTurn_invariant
    {ask : σ → ρ → α × σ} {P : σ → Prop} {s : σ}
    (hs : P s)
    (rs : List ρ)
    (hask : ∀ s, ∀ r ∈ rs, P s → P (ask s r).2) :
    P (inTurn ask s rs).2 := by
  induction rs generalizing s with
  | nil =>
      exact hs
  | cons r rs ih =>
      refine ih (hask s r List.mem_cons_self hs) fun s r hr => ?_
      exact hask s r (List.mem_cons_of_mem _ hr)

/-- Two systems that answer every request alike, and stay related, answer a whole run alike. -/
theorem inTurn_related
    {ask : σ → ρ → α × σ} {ask' : τ → ρ → α × τ} {R : σ → τ → Prop} {s : σ} {t : τ}
    (hst : R s t)
    (hask : ∀ s t r, R s t → (ask s r).1 = (ask' t r).1 ∧ R (ask s r).2 (ask' t r).2)
    (rs : List ρ) :
    (inTurn ask s rs).1 = (inTurn ask' t rs).1 ∧ R (inTurn ask s rs).2 (inTurn ask' t rs).2 := by
  induction rs generalizing s t with
  | nil =>
      exact ⟨rfl, hst⟩
  | cons r rs ih =>
      obtain ⟨hanswer, hleft⟩ := hask s t r hst
      obtain ⟨hanswers, hend⟩ := ih hleft
      exact ⟨by simp only [inTurn, hanswer, hanswers], hend⟩

end

namespace SymbolTable

/-! ### Requests to a symbol table -/

/-- What a symbol table can be asked to do. -/
inductive Request where
  | terminal (name pattern : String)
  | nonterminal (name : String)
  | endMarker (name : String)
deriving DecidableEq, Repr

namespace Request

/-- The name that a symbol is to have. -/
def name : Request → String
  | .terminal name _ => name
  | .nonterminal name => name
  | .endMarker name => name

/-- What the new symbol is, if there is to be one. -/
def kind? : Request → Option SymbolKind
  | .terminal _ pattern => some (.terminal pattern)
  | .nonterminal _ => some .nonterminal
  | .endMarker _ => none

end Request

variable {t : SymbolTable} {r : Request} {id : SymbolId} {name : String}

/-- The symbol that is to have the name: the end marker, or the one that comes next. -/
def target (t : SymbolTable) (r : Request) : SymbolId :=
  if r.kind?.isSome then t.size else endMarker

/-- Carries out a request, and gives the number of the symbol that is new. -/
def carryOut (t : SymbolTable) : Request → Except Fault (Option SymbolId × SymbolTable)
  | .terminal name pattern => do
      let (id, t') ← t.registerTerminal name pattern
      return (some id, t')
  | .nonterminal name => do
      let (id, t') ← t.registerNonterminal name
      return (some id, t')
  | .endMarker name => do
      return (none, ← t.setEndMarker name)

def ask (t : SymbolTable) (r : Request) : Except Fault (Option SymbolId) × SymbolTable :=
  answered t (t.carryOut r)

/-- The table with one more symbol. -/
def push (t : SymbolTable) (name : String) (kind : SymbolKind) : SymbolTable where
  symbols := t.symbols ++ [{ name := name, kind := kind }]

/-- The table with another end marker. -/
def rename (t : SymbolTable) (name : String) : SymbolTable where
  symbols := t.symbols.set endMarker (endMarkerSymbol name)

@[simp] theorem size_push
    (t : SymbolTable) (name : String) (kind : SymbolKind) :
    (t.push name kind).size = t.size + 1 := by
  simp [size, push]

@[simp] theorem size_rename
    (t : SymbolTable) (name : String) :
    (t.rename name).size = t.size := by
  simp [size, rename]

theorem name_push
    (t : SymbolTable) (name : String) (kind : SymbolKind) (id : SymbolId) :
    (t.push name kind).name id = if id = t.size then name else t.name id := by
  rcases Nat.lt_trichotomy id t.size with hlt | rfl | hgt
  · rw [if_neg (Nat.ne_of_lt hlt)]
    simp only [SymbolTable.name, push, List.getElem?_append_left hlt]
  · simp [SymbolTable.name, push, size]
  · have hlength : (t.push name kind).symbols.length ≤ id := by
      simpa [push, size] using hgt
    have hnone : t.symbols.length ≤ id := Nat.le_of_lt hgt
    rw [if_neg (Nat.ne_of_gt hgt)]
    simp [SymbolTable.name, List.getElem?_eq_none hlength, List.getElem?_eq_none hnone]

theorem name_rename
    (hmarker : endMarker < t.size)
    (name : String) (id : SymbolId) :
    (t.rename name).name id = if id = endMarker then name else t.name id := by
  by_cases hid : id = endMarker
  · subst hid
    have hlt : endMarker < t.symbols.length := hmarker
    simp [SymbolTable.name, rename, List.getElem?_set_self hlt, endMarkerSymbol]
  · rw [if_neg hid]
    simp only [SymbolTable.name, rename, List.getElem?_set_ne (Ne.symm hid)]

/-- What a request to a table can come to. -/
inductive Effect (t : SymbolTable) (r : Request) :
    Except Fault (Option SymbolId) × SymbolTable → Prop
  | added
      {kind : SymbolKind}
      (hkind : r.kind? = some kind)
      (hfree : t.contains r.name = false) :
      Effect t r (.ok (some t.size), t.push r.name kind)
  /-- the end marker has the name already -/
  | kept
      (hkind : r.kind? = none)
      (hname : t.name endMarker = r.name) :
      Effect t r (.ok none, t)
  | renamed
      (hkind : r.kind? = none)
      (hname : t.name endMarker ≠ r.name)
      (hfree : t.contains r.name = false) :
      Effect t r (.ok none, t.rename r.name)
  | refused
      (hname : r.kind? = none → t.name endMarker ≠ r.name)
      (hused : t.contains r.name = true) :
      Effect t r (.error (.duplicateSymbol r.name), t)

/-- A request can come to one thing only. -/
theorem Effect.unique
    {asked asked' : Except Fault (Option SymbolId) × SymbolTable}
    (h : Effect t r asked)
    (h' : Effect t r asked') :
    asked = asked' := by
  cases h <;> cases h' <;> simp_all

/-- A symbol is new unless its name is in use. -/
theorem effect_register
    {kind : SymbolKind}
    (hkind : r.kind? = some kind) :
    Effect t r (answered t (do
      let (id, t') ← t.register r.name kind
      return (some id, t'))) := by
  rw [register]
  cases hname : t.contains r.name with
  | false =>
      exact .added hkind hname
  | true =>
      refine .refused (fun hnone => ?_) hname
      rw [hkind] at hnone
      cases hnone

theorem ask_effect
    (t : SymbolTable) (r : Request) :
    Effect t r (t.ask r) := by
  cases r with
  | terminal name pattern =>
      exact effect_register rfl
  | nonterminal name =>
      exact effect_register rfl
  | endMarker name =>
      change Effect t (.endMarker name) (answered t (do return (none, ← t.setEndMarker name)))
      rw [setEndMarker]
      by_cases hsame : t.name PredictiveParsing.endMarker = name
      · rw [if_pos hsame]
        exact .kept rfl hsame
      · rw [if_neg hsame]
        cases hname : t.contains name with
        | false =>
            exact .renamed rfl hsame hname
        | true =>
            exact .refused (fun _ => hsame) hname

theorem reachable_ask
    (ht : t.Reachable)
    (r : Request) :
    (t.ask r).2.Reachable := by
  have h := t.ask_effect r
  generalize t.ask r = asked at h ⊢
  cases h with
  | @added kind _ hfree =>
      have hnew : t.register r.name kind = .ok (t.size, t.push r.name kind) := by
        rw [register, hfree]
        rfl
      exact ht.register hnew
  | kept | refused =>
      exact ht
  | renamed _ hname hfree =>
      have hnew : t.setEndMarker r.name = .ok (t.rename r.name) := by
        rw [setEndMarker, if_neg hname, hfree]
        rfl
      exact ht.setEndMarker hnew

theorem Reachable.asked
    (ht : t.Reachable)
    (rs : List Request) :
    (inTurn ask t rs).2.Reachable :=
  inTurn_invariant ht rs fun _ r _ h => reachable_ask h r

theorem size_le_ask
    (t : SymbolTable) (r : Request) :
    t.size ≤ (t.ask r).2.size := by
  have h := t.ask_effect r
  generalize t.ask r = asked at h ⊢
  cases h with
  | added =>
      simp
  | kept | refused =>
      exact le_refl _
  | renamed =>
      simp

/-- A request changes no symbol but the end marker. -/
theorem getElem?_ask
    (r : Request)
    (hid : id < t.size)
    (hne : id ≠ endMarker) :
    (t.ask r).2.symbols[id]? = t.symbols[id]? := by
  have h := t.ask_effect r
  generalize t.ask r = asked at h ⊢
  cases h with
  | added =>
      exact List.getElem?_append_left hid
  | kept | refused =>
      rfl
  | renamed =>
      exact List.getElem?_set_ne hne.symm

/-- The end marker stays a terminal. -/
theorem isTerminal_ask
    (r : Request)
    (hmarker : t.isTerminal endMarker = true)
    (hid : id < t.size) :
    (t.ask r).2.isTerminal id = t.isTerminal id := by
  by_cases hne : id = endMarker
  · subst hne
    have hlt : endMarker < t.symbols.length := hid
    have h := t.ask_effect r
    generalize t.ask r = asked at h ⊢
    cases h with
    | added =>
        simp only [isTerminal, kind?, push, List.getElem?_append_left hlt]
    | kept | refused =>
        rfl
    | renamed =>
        rw [hmarker]
        simp [isTerminal, kind?, rename, List.getElem?_set_self hlt, endMarkerSymbol,
          SymbolKind.isTerminal]
  · simp only [isTerminal, kind?, getElem?_ask r hid hne]

/-- A request takes no name away but that of the end marker. -/
theorem id?_ask
    (r : Request)
    (hid : t.id? name = some id)
    (hne : id ≠ endMarker) :
    (t.ask r).2.id? name = some id := by
  have hlt := lt_size_of_id? hid
  have hused : t.contains name = true := by
    rw [contains, hid]
    rfl
  obtain ⟨_, hname, hbefore⟩ := List.findIdx?_eq_some_iff_getElem.1 hid
  have h := t.ask_effect r
  generalize t.ask r = asked at h ⊢
  cases h with
  | added =>
      have hfound : t.symbols.findIdx? (fun s => s.name == name) = some id := hid
      simp [id?, push, List.findIdx?_append, hfound]
  | kept | refused =>
      exact hid
  | renamed _ _ hfree =>
      have hother : r.name ≠ name := by
        rintro rfl
        rw [hused] at hfree
        cases hfree
      have hlength : (t.rename r.name).symbols.length = t.symbols.length := by
        simp [rename]
      refine List.findIdx?_eq_some_iff_getElem.2 ⟨hlength ▸ hlt, ?_, fun j hj => ?_⟩
      · simpa [rename, List.getElem_set_ne hne.symm] using hname
      · by_cases hmarker : endMarker = j
        · subst hmarker
          simpa [rename, endMarkerSymbol] using hother
        · simpa [rename, List.getElem_set_ne hmarker] using hbefore j hj

end SymbolTable

namespace Grammar

/-! ### Declarations made to a grammar -/

variable {g : Grammar} {d : Declaration}

/-- Carries out a declaration, and gives the number of the symbol that is new or the index of the
production that is new. -/
def carryOut (g : Grammar) : Declaration → Except Fault (Option Nat × Grammar)
  | .terminal name pattern => do
      let (id, g') ← g.registerTerminal name pattern
      return (some id, g')
  | .nonterminal name => do
      let (id, g') ← g.registerNonterminal name
      return (some id, g')
  | .start name => return (none, g.setStart name)
  | .endMarker value => do
      return (none, ← g.setEndMarker value)
  | .rule antecedent consequent => do
      let (ix, g') ← g.addRule antecedent consequent
      return (some ix, g')

def ask (g : Grammar) (d : Declaration) : Except Fault (Option Nat) × Grammar :=
  answered g (g.carryOut d)

/-- What a declaration asks of the symbol table. -/
def request? : Declaration → Option SymbolTable.Request
  | .terminal name pattern => some (.terminal name pattern)
  | .nonterminal name => some (.nonterminal name)
  | .endMarker value => some (.endMarker value)
  | .start _ => none
  | .rule _ _ => none

/-- The grammar with one more production. -/
def addProduction (g : Grammar) (p : Production) : Grammar :=
  { g with productions := g.productions ++ [p] }

/-- What a declaration to a grammar can come to. -/
inductive Effect (g : Grammar) (d : Declaration) :
    Except Fault (Option Nat) × Grammar → Prop
  | symbols
      {r : SymbolTable.Request}
      (hd : request? d = some r) :
      Effect g d ((g.symbols.ask r).1, { g with symbols := (g.symbols.ask r).2 })
  | start
      {name : String}
      (hd : d = .start name) :
      Effect g d (.ok none, g.setStart name)
  | added
      {antecedent consequent : String} {p : Production}
      (hd : d = .rule antecedent consequent)
      (hlhs : g.symbols.resolve antecedent = .ok p.lhs)
      (hterm : g.isTerminal p.lhs = false)
      (hrhs : g.symbols.split consequent = .ok p.rhs)
      (hhead : p.rhs.head? ≠ some p.lhs) :
      Effect g d (.ok (some g.productions.length), g.addProduction p)
  | refused
      {antecedent consequent : String} {fault : Fault}
      (hd : d = .rule antecedent consequent) :
      Effect g d (.error fault, g)

/-- A rule that is added does not begin with its own left-hand side. -/
theorem head_ne_of_addRule
    {g' : Grammar} {antecedent consequent : String} {ix nt : Nat} {rhs : List SymbolId}
    (h : g.addRule antecedent consequent = .ok (ix, g'))
    (hlhs : g.symbols.resolve antecedent = .ok nt)
    (hterm : g.isTerminal nt = false)
    (hrhs : g.symbols.split consequent = .ok rhs) :
    rhs.head? ≠ some nt := by
  intro hhead
  unfold addRule at h
  rw [hlhs] at h
  simp only [bind, Except.bind, hterm, hrhs, hhead, if_true] at h
  cases h

/-- A declaration of a symbol is a request to the symbol table. -/
theorem ask_of_request
    {r : SymbolTable.Request}
    (g : Grammar)
    (hd : request? d = some r) :
    g.ask d = ((g.symbols.ask r).1, { g with symbols := (g.symbols.ask r).2 }) := by
  cases d with
  | terminal name pattern =>
      cases hd
      simp only [ask, carryOut, registerTerminal, SymbolTable.ask, SymbolTable.carryOut]
      cases g.symbols.registerTerminal name pattern <;> rfl
  | nonterminal name =>
      cases hd
      simp only [ask, carryOut, registerNonterminal, SymbolTable.ask, SymbolTable.carryOut]
      cases g.symbols.registerNonterminal name <;> rfl
  | endMarker value =>
      cases hd
      simp only [ask, carryOut, setEndMarker, SymbolTable.ask, SymbolTable.carryOut]
      cases g.symbols.setEndMarker value <;> rfl
  | start name | rule antecedent consequent =>
      cases hd

theorem ask_effect
    (g : Grammar) (d : Declaration) :
    Effect g d (g.ask d) := by
  cases d with
  | terminal name pattern | nonterminal name | endMarker value =>
      rw [ask_of_request g rfl]
      exact .symbols rfl
  | start name =>
      exact .start rfl
  | rule antecedent consequent =>
      simp only [ask, carryOut]
      cases hadd : g.addRule antecedent consequent with
      | error fault =>
          exact .refused rfl
      | ok added =>
          obtain ⟨nt, rhs, hlhs, hterm, hrhs, hix, hg'⟩ := addRule_eq_ok hadd
          have hhead := head_ne_of_addRule hadd hlhs hterm hrhs
          rw [show added = (g.productions.length, g.addProduction ⟨nt, rhs⟩) from
            Prod.ext hix hg']
          exact .added rfl hlhs hterm hrhs hhead

theorem reachable_ask
    (hg : g.Reachable)
    (d : Declaration) :
    (g.ask d).2.Reachable := by
  rw [ask]
  cases hasked : g.carryOut d with
  | error fault =>
      exact hg
  | ok asked =>
      cases d with
      | terminal name pattern =>
          obtain ⟨_, h, heq⟩ := bind_eq_ok hasked
          cases heq
          exact hg.registerTerminal h
      | nonterminal name =>
          obtain ⟨_, h, heq⟩ := bind_eq_ok hasked
          cases heq
          exact hg.registerNonterminal h
      | start name =>
          cases hasked
          exact hg.setStart name
      | endMarker value =>
          obtain ⟨_, h, heq⟩ := bind_eq_ok hasked
          cases heq
          exact hg.setEndMarker h
      | rule antecedent consequent =>
          obtain ⟨_, h, heq⟩ := bind_eq_ok hasked
          cases heq
          exact hg.addRule h

theorem Reachable.asked
    (hg : g.Reachable)
    (ds : List Declaration) :
    (inTurn ask g ds).2.Reachable :=
  inTurn_invariant hg ds fun _ d _ h => reachable_ask h d

/-- A declaration keeps a grammar well formed, also one that was not made by declarations. -/
theorem WellFormed.ask
    (hg : g.WellFormed)
    (d : Declaration) :
    (g.ask d).2.WellFormed := by
  have h := g.ask_effect d
  generalize g.ask d = asked at h ⊢
  cases h with
  | symbols =>
      refine hg.of_symbols (SymbolTable.size_le_ask _ _) fun id hid => ?_
      exact SymbolTable.isTerminal_ask _ hg.endMarker_terminal hid
  | start =>
      exact { hg with }
  | added _ hlhs hterm hrhs =>
      exact hg.of_production hterm (SymbolTable.lt_size_of_resolve hlhs)
        (SymbolTable.lt_size_of_split hg.epsilon_terminal hrhs)
  | refused =>
      exact hg

end Grammar
end PredictiveParsing

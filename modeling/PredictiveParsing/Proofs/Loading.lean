import PredictiveParsing.Proofs.Requests
import Mathlib.Tactic

/-!
# Loading a document

A document is loaded in three passes, and what fails in one of them leaves a fault and nothing else.
The first and the third pass make declarations to a grammar one after the other
(`Loading.pass_eq`), the symbol declarations first and then the rules.  Between the two stand the
non-terminals that no line declares (`Loading.pass_declareAntecedent`), and no fault comes from
there.

So a loaded grammar can be read off the declarations that did not fail (`Document.load_consists`),
and every failure is told once (`Document.load_accounts`).  Adding a rule changes no symbol: a rule
is judged by the symbols of the whole document, and also by the left-hand sides of later rules.
-/

namespace PredictiveParsing

namespace Declaration

/-! ### What a declaration contributes -/

def isRule : Declaration → Bool
  | .rule _ _ => true
  | _ => false

/-- The symbol that is declared. -/
def symbol? : Declaration → Option Symbol
  | .terminal name pattern => some ⟨name, .terminal pattern⟩
  | .nonterminal name => some ⟨name, .nonterminal⟩
  | _ => none

/-- The name that the end marker is to have. -/
def marker? : Declaration → Option String
  | .endMarker value => some value
  | _ => none

/-- The name of the start symbol that is chosen. -/
def start? : Declaration → Option String
  | .start name => some name
  | _ => none

/-- The left-hand side of a rule. -/
def antecedent? : Declaration → Option String
  | .rule antecedent _ => some antecedent
  | _ => none

/-- The production that a rule stands for. -/
def Produces (t : SymbolTable) (d : Declaration) (p : Production) : Prop :=
  ∃ antecedent consequent, d = .rule antecedent consequent ∧
    t.resolve antecedent = .ok p.lhs ∧ t.split consequent = .ok p.rhs

end Declaration

/-! ### Declarations with their answers -/

/-- Declarations and what was answered to them. -/
abbrev Answers := List (Spanned Declaration × Except Fault (Option Nat))

namespace Answers

/-- The faults that were answered, each at the place of its declaration. -/
def failed (answers : Answers) : List PlacedFault :=
  answers.filterMap fun e =>
    match e.2 with
    | .ok _ => none
    | .error fault => some (fault.placed e.1.span)

/-- The declarations that were not answered with a fault. -/
def granted (answers : Answers) : List Declaration :=
  answers.filterMap fun e =>
    match e.2 with
    | .ok _ => some e.1.item
    | .error _ => none

@[simp] theorem failed_nil :
    failed [] = [] :=
  rfl

@[simp] theorem failed_cons_ok
    (d : Spanned Declaration) (answer : Option Nat) (answers : Answers) :
    failed ((d, .ok answer) :: answers) = answers.failed :=
  rfl

@[simp] theorem failed_cons_error
    (d : Spanned Declaration) (fault : Fault) (answers : Answers) :
    failed ((d, .error fault) :: answers) = fault.placed d.span :: answers.failed :=
  rfl

@[simp] theorem granted_nil :
    granted [] = [] :=
  rfl

@[simp] theorem granted_cons_ok
    (d : Spanned Declaration) (answer : Option Nat) (answers : Answers) :
    granted ((d, .ok answer) :: answers) = d.item :: answers.granted :=
  rfl

@[simp] theorem granted_cons_error
    (d : Spanned Declaration) (fault : Fault) (answers : Answers) :
    granted ((d, .error fault) :: answers) = answers.granted :=
  rfl

theorem failed_append
    (answers more : Answers) :
    failed (answers ++ more) = answers.failed ++ more.failed :=
  List.filterMap_append

theorem failed_eq_nil_iff
    {answers : Answers} :
    answers.failed = [] ↔ ∀ d fault, (d, .error fault) ∉ answers := by
  rw [failed, List.filterMap_eq_nil_iff]
  constructor
  · intro h d fault hmem
    cases h _ hmem
  · rintro h ⟨d, _ | fault⟩ hmem
    · exact absurd hmem (h d _)
    · rfl

/-- Where nothing failed, all declarations were granted. -/
theorem granted_of_failed_eq_nil
    {answers : Answers}
    (h : answers.failed = []) :
    answers.granted = (answers.map Prod.fst).map Spanned.item := by
  rw [failed_eq_nil_iff] at h
  rw [granted, List.map_map, ← List.filterMap_eq_map]
  refine List.filterMap_congr ?_
  rintro ⟨d, fault | answer⟩ hmem
  · exact absurd hmem (h d fault)
  · rfl

end Answers

namespace Grammar

variable {g : Grammar} {part : Document}

/-- The answers to the declarations of a document, made one after the other. -/
def answers (g : Grammar) (part : Document) : Answers :=
  part.zip (inTurn ask g (part.map Spanned.item)).1

/-- The grammar after all declarations of a document. -/
def after (g : Grammar) (part : Document) : Grammar :=
  (inTurn ask g (part.map Spanned.item)).2

@[simp] theorem answers_nil
    (g : Grammar) :
    g.answers [] = [] :=
  rfl

@[simp] theorem answers_cons
    (g : Grammar) (d : Spanned Declaration) (part : Document) :
    g.answers (d :: part) = (d, (g.ask d.item).1) :: (g.ask d.item).2.answers part :=
  rfl

@[simp] theorem after_nil
    (g : Grammar) :
    g.after [] = g :=
  rfl

@[simp] theorem after_cons
    (g : Grammar) (d : Spanned Declaration) (part : Document) :
    g.after (d :: part) = (g.ask d.item).2.after part :=
  rfl

/-- Every declaration is answered once. -/
theorem map_fst_answers
    (g : Grammar) (part : Document) :
    (g.answers part).map Prod.fst = part := by
  induction part generalizing g with
  | nil =>
      rfl
  | cons d part ih =>
      rw [answers_cons, List.map_cons, ih]

end Grammar

/-! ### The passes -/

namespace Loading

/-- A pass that carries out some of the declarations, and does nothing about the others, makes these
declarations one after the other and keeps the faults. -/
theorem pass_eq
    {declare : Grammar → Declaration → Except Fault Grammar} {p : Declaration → Bool}
    (hkept : ∀ g d, p d = true → declare g d = (g.carryOut d).map Prod.snd)
    (hrest : ∀ g d, p d = false → declare g d = .ok g)
    (l : Loading) (document : Document) :
    pass declare l document =
      { grammar := l.grammar.after (document.filter (p ·.item))
        faults := l.faults ++ (l.grammar.answers (document.filter (p ·.item))).failed } := by
  induction document generalizing l with
  | nil =>
      simp [pass]
  | cons d document ih =>
      have hpass : pass declare l (d :: document) = pass declare (step declare l d) document := rfl
      rw [hpass, ih]
      cases hd : p d.item with
      | false =>
          simp only [List.filter_cons, hd, step, hrest _ _ hd]
          rfl
      | true =>
          simp only [List.filter_cons, hd, if_true, Grammar.after_cons, Grammar.answers_cons, step,
            hkept _ _ hd, Grammar.ask]
          cases l.grammar.carryOut d.item with
          | error fault =>
              simp [Except.map, answered]
          | ok asked =>
              simp [Except.map, answered]

theorem pass_declareSymbol
    (l : Loading) (document : Document) :
    pass declareSymbol l document =
      { grammar := l.grammar.after (document.filter (!·.item.isRule))
        faults := l.faults ++ (l.grammar.answers (document.filter (!·.item.isRule))).failed } := by
  refine pass_eq (p := (!·.isRule)) (fun g d hd => ?_) (fun g d hd => ?_) l document
  · cases d with
    | terminal name pattern =>
        simp only [declareSymbol, Grammar.carryOut]
        cases g.registerTerminal name pattern <;> rfl
    | nonterminal name =>
        simp only [declareSymbol, Grammar.carryOut]
        cases g.registerNonterminal name <;> rfl
    | start name =>
        rfl
    | endMarker value =>
        simp only [declareSymbol, Grammar.carryOut]
        cases g.setEndMarker value <;> rfl
    | rule antecedent consequent =>
        cases hd
  · cases d with
    | rule antecedent consequent =>
        rfl
    | terminal name pattern | nonterminal name | start name | endMarker value =>
        cases hd

theorem pass_declareRule
    (l : Loading) (document : Document) :
    pass declareRule l document =
      { grammar := l.grammar.after (document.filter (·.item.isRule))
        faults := l.faults ++ (l.grammar.answers (document.filter (·.item.isRule))).failed } := by
  refine pass_eq (fun g d hd => ?_) (fun g d hd => ?_) l document
  · cases d with
    | rule antecedent consequent =>
        simp only [declareRule, Grammar.carryOut]
        cases g.addRule antecedent consequent <;> rfl
    | terminal name pattern | nonterminal name | start name | endMarker value =>
        cases hd
  · cases d with
    | rule antecedent consequent =>
        cases hd
    | terminal name pattern | nonterminal name | start name | endMarker value =>
        rfl

end Loading

/-! ### Left-hand sides that no line declares -/

namespace SymbolTable

variable {t : SymbolTable} {name : String}

/-- The table with more non-terminals. -/
def pushNonterminals (t : SymbolTable) (names : List String) : SymbolTable where
  symbols := t.symbols ++ names.map fun name => ⟨name, .nonterminal⟩

theorem contains_push
    (t : SymbolTable) (name : String) (kind : SymbolKind) (other : String) :
    (t.push name kind).contains other = (t.contains other || other == name) := by
  by_cases h : other = name
  · subst h
    simp [contains, id?, push]
  · simp [contains, id?, push, h, Ne.symm h]

theorem contains_pushNonterminals
    {names : List String} :
    (t.pushNonterminals names).contains name = true ↔ t.contains name = true ∨ name ∈ names := by
  simp [contains, id?, pushNonterminals]

/-- A left-hand side is found in the table, or is missing there. -/
theorem contains_or_not_contains
    (t : SymbolTable) (d : Declaration) :
    (∀ antecedent, d.antecedent? = some antecedent → t.contains antecedent = true) ∨
      ∃ antecedent, d.antecedent? = some antecedent ∧ t.contains antecedent = false := by
  cases hd : d.antecedent? with
  | none =>
      exact .inl fun _ h => nomatch h
  | some antecedent =>
      cases h : t.contains antecedent with
      | true =>
          refine .inl fun _ hsame => ?_
          cases hsame
          exact h
      | false =>
          exact .inr ⟨antecedent, rfl, h⟩

end SymbolTable

namespace Document

/-- The left-hand sides that are not names of the table, in the order of their first rules. -/
def missing (t : SymbolTable) (document : Document) : List String :=
  ((document.filterMap (·.item.antecedent?)).filter (!t.contains ·)).eraseDups

variable {t : SymbolTable} {d : Spanned Declaration} {document : Document}

theorem missing_cons_of_contains
    (h : ∀ antecedent, d.item.antecedent? = some antecedent → t.contains antecedent = true) :
    missing t (d :: document) = missing t document := by
  cases hd : d.item.antecedent? with
  | none =>
      simp [missing, hd]
  | some antecedent =>
      simp [missing, hd, h antecedent hd]

/-- A left-hand side that is missing is pushed, and is not missing any more. -/
theorem missing_cons_of_not_contains
    {antecedent : String}
    (hd : d.item.antecedent? = some antecedent)
    (h : t.contains antecedent = false) :
    missing t (d :: document) = antecedent :: missing (t.push antecedent .nonterminal) document := by
  simp [missing, hd, h, List.eraseDups_cons, List.filter_filter, SymbolTable.contains_push,
    Bool.and_comm]

end Document

namespace Loading

variable {g : Grammar} {d : Declaration}

theorem declareAntecedent_of_contains
    (h : ∀ antecedent, d.antecedent? = some antecedent →
      g.symbols.contains antecedent = true) :
    declareAntecedent g d = .ok g := by
  cases d with
  | rule antecedent consequent =>
      exact if_pos (h antecedent rfl)
  | terminal name pattern | nonterminal name | start name | endMarker value =>
      rfl

theorem declareAntecedent_of_not_contains
    {antecedent : String}
    (hd : d.antecedent? = some antecedent)
    (h : g.symbols.contains antecedent = false) :
    declareAntecedent g d =
      .ok { g with symbols := g.symbols.push antecedent .nonterminal } := by
  cases d with
  | rule antecedent consequent =>
      cases hd
      simp only [declareAntecedent, h, Grammar.registerNonterminal,
        SymbolTable.registerNonterminal, SymbolTable.register]
      rfl
  | terminal name pattern | nonterminal name | start name | endMarker value =>
      cases hd

/-- Making a non-terminal of a left-hand side never fails. -/
theorem declareAntecedent_ok
    (g : Grammar) (d : Declaration) :
    ∃ g', declareAntecedent g d = .ok g' := by
  obtain h | ⟨antecedent, hd, h⟩ := g.symbols.contains_or_not_contains d
  · exact ⟨_, declareAntecedent_of_contains h⟩
  · exact ⟨_, declareAntecedent_of_not_contains hd h⟩

/-- The second pass pushes what is missing. -/
theorem pass_declareAntecedent
    (l : Loading) (document : Document) :
    pass declareAntecedent l document =
      { l with
        grammar :=
          { l.grammar with
            symbols :=
              l.grammar.symbols.pushNonterminals (document.missing l.grammar.symbols) } } := by
  induction document generalizing l with
  | nil =>
      simp [pass, Document.missing, SymbolTable.pushNonterminals]
  | cons d document ih =>
      have hpass : pass declareAntecedent l (d :: document) =
          pass declareAntecedent (step declareAntecedent l d) document := rfl
      rw [hpass, ih]
      obtain h | ⟨antecedent, hd, h⟩ := l.grammar.symbols.contains_or_not_contains d.item
      · rw [Document.missing_cons_of_contains h, step, declareAntecedent_of_contains h]
      · rw [Document.missing_cons_of_not_contains hd h, step,
          declareAntecedent_of_not_contains hd h]
        simp [SymbolTable.pushNonterminals, SymbolTable.push]

end Loading

/-! ### Symbols, in the order of their declarations -/

namespace SymbolTable

/-- The table of an end marker with this name, and of these symbols after the first two. -/
def withMarker (marker : String) (symbols : List Symbol) : SymbolTable where
  symbols := endMarkerSymbol marker :: ⟨epsilonName, .terminal epsilonName⟩ :: symbols

/-- The table that declarations make of which none fails. -/
def ofDeclarations (ds : List Declaration) : SymbolTable :=
  withMarker ((ds.filterMap Declaration.marker?).getLastD "$")
    (ds.filterMap Declaration.symbol?)

/-- A request that is granted renames the end marker or adds a symbol. -/
theorem ask_withMarker
    {marker : String} {symbols : List Symbol} {r : Request} {answer : Option SymbolId}
    (h : ((withMarker marker symbols).ask r).1 = .ok answer) :
    ((withMarker marker symbols).ask r).2 =
      match r.kind? with
      | some kind => withMarker marker (symbols ++ [⟨r.name, kind⟩])
      | none => withMarker r.name symbols := by
  have heffect := (withMarker marker symbols).ask_effect r
  generalize (withMarker marker symbols).ask r = asked at h heffect ⊢
  cases heffect with
  | added hkind =>
      rw [hkind]
      rfl
  | kept hkind hname =>
      rw [hkind, ← hname]
      rfl
  | renamed hkind =>
      rw [hkind]
      rfl
  | refused =>
      cases h

/-- The production of a rule, if the symbols allow it. -/
def production (t : SymbolTable) (antecedent consequent : String) : Except Fault Production := do
  let nt ← t.resolve antecedent
  if t.isTerminal nt then throw (.notNonterminal antecedent)
  let rhs ← t.split consequent
  if rhs.head? = some nt then
    throw (.leftRecursion antecedent (" ".intercalate (t.names rhs)))
  return { lhs := nt, rhs := rhs }

end SymbolTable

namespace Grammar

variable {g g' : Grammar} {d : Declaration} {part : Document}

/-- A declaration that fails changes nothing. -/
theorem ask_error
    {fault : Fault}
    (h : (g.ask d).1 = .error fault) :
    (g.ask d).2 = g :=
  unchanged_of_answered h

/-- Rules and the choice of a start symbol leave the symbols as they are. -/
theorem symbols_ask_of_no_request
    (g : Grammar)
    (hd : request? d = none) :
    (g.ask d).2.symbols = g.symbols := by
  have h := g.ask_effect d
  generalize g.ask d = asked at h ⊢
  cases h with
  | symbols hrequest =>
      rw [hd] at hrequest
      cases hrequest
  | start | added | refused =>
      rfl

/-- What a declaration that is granted does to the symbols. -/
theorem symbols_ask
    {marker : String} {symbols : List Symbol} {answer : Option Nat}
    (hg : g.symbols = .withMarker marker symbols)
    (h : (g.ask d).1 = .ok answer) :
    (g.ask d).2.symbols =
      .withMarker (d.marker?.getD marker) (symbols ++ d.symbol?.toList) := by
  cases d with
  | terminal name pattern | nonterminal name =>
      rw [ask_of_request g rfl, hg] at h ⊢
      exact SymbolTable.ask_withMarker h
  | endMarker value =>
      rw [ask_of_request g rfl, hg] at h ⊢
      exact (SymbolTable.ask_withMarker h).trans (by simp [Declaration.symbol?]; rfl)
  | start name | rule antecedent consequent =>
      rw [symbols_ask_of_no_request g rfl, hg]
      simp [Declaration.marker?, Declaration.symbol?]

/-- The symbols after a run are those before it and those that were granted. -/
theorem symbols_after
    {marker : String} {symbols : List Symbol}
    (hg : g.symbols = .withMarker marker symbols)
    (part : Document) :
    (g.after part).symbols =
      .withMarker (((g.answers part).granted.filterMap Declaration.marker?).getLastD marker)
        (symbols ++ (g.answers part).granted.filterMap Declaration.symbol?) := by
  induction part generalizing g marker symbols with
  | nil =>
      simpa using hg
  | cons d part ih =>
      rw [after_cons, answers_cons]
      cases hanswer : (g.ask d.item).1 with
      | error fault =>
          rw [ask_error hanswer]
          exact ih hg
      | ok answer =>
          rw [ih (symbols_ask hg hanswer), Answers.granted_cons_ok]
          cases hmarker : d.item.marker? <;> cases hsymbol : d.item.symbol? <;>
            simp only [List.filterMap_cons, hmarker, hsymbol, List.getLastD_cons, Option.getD_none,
              Option.getD_some, Option.toList_none, Option.toList_some, List.append_nil,
              List.append_assoc, List.singleton_append]

theorem startName_ask
    (g : Grammar) (d : Declaration) :
    (g.ask d).2.startName = d.start?.or g.startName := by
  have h := g.ask_effect d
  generalize g.ask d = asked at h ⊢
  cases h with
  | symbols hd =>
      cases d with
      | terminal | nonterminal | endMarker =>
          rfl
      | start | rule =>
          cases hd
  | start hd | added hd | refused hd =>
      cases hd
      rfl

/-- The last choice of a start symbol counts. -/
theorem startName_after
    (g : Grammar) (part : Document) :
    (g.after part).startName =
      ((g.answers part).granted.filterMap Declaration.start?).getLast?.or g.startName := by
  induction part generalizing g with
  | nil =>
      rfl
  | cons d part ih =>
      rw [after_cons, answers_cons, ih]
      cases hanswer : (g.ask d.item).1 with
      | error fault =>
          rw [ask_error hanswer, Answers.granted_cons_error]
      | ok answer =>
          rw [startName_ask, Answers.granted_cons_ok]
          cases hstart : d.item.start? with
          | none =>
              simp [hstart]
          | some name =>
              simp [hstart, List.getLast?_cons]

/-! ### Productions, in the order of the rules -/


/-- Declarations of symbols add no production. -/
theorem productions_after_of_symbols
    (g : Grammar)
    (hpart : ∀ d ∈ part, d.item.isRule = false) :
    (g.after part).productions = g.productions := by
  refine inTurn_invariant (P := fun g' : Grammar => g'.productions = g.productions) rfl _ ?_
  intro g' d hd hg'
  obtain ⟨d, hmem, rfl⟩ := List.mem_map.1 hd
  have hrule := hpart d hmem
  have h := g'.ask_effect d.item
  generalize g'.ask d.item = asked at h ⊢
  cases h with
  | symbols | start | refused =>
      exact hg'
  | added hd =>
      rw [hd] at hrule
      cases hrule

/-- A rule is added if the symbols give a production for it. -/
theorem addRule_eq
    (g : Grammar) (antecedent consequent : String) :
    g.addRule antecedent consequent =
      (g.symbols.production antecedent consequent).map fun p =>
        (g.productions.length, g.addProduction p) := by
  rw [addRule, SymbolTable.production]
  cases g.symbols.resolve antecedent with
  | error _ =>
      rfl
  | ok nt =>
      simp only [bind, Except.bind, isTerminal, showSymbols]
      by_cases hterm : g.symbols.isTerminal nt = true
      · simp only [hterm, if_true]
        rfl
      · simp only [hterm]
        cases g.symbols.split consequent with
        | error _ =>
            rfl
        | ok rhs =>
            by_cases hhead : rhs.head? = some nt
            · simp only [hhead, if_true]
              rfl
            · simp only [hhead, if_false]
              rfl

/-- A rule fails, or its production comes last. -/
theorem ask_rule
    (g : Grammar)
    (hd : d.isRule = true) :
    (∃ fault, g.ask d = (.error fault, g)) ∨
      ∃ p, d.Produces g.symbols p ∧
        g.ask d = (.ok (some g.productions.length), g.addProduction p) := by
  have h := g.ask_effect d
  generalize g.ask d = asked at h ⊢
  cases h with
  | symbols hrequest =>
      cases d <;> cases hd
      cases hrequest
  | start hstart =>
      cases hstart
      cases hd
  | added hrule hlhs _ hrhs _ =>
      exact .inr ⟨_, ⟨_, _, hrule, hlhs, hrhs⟩, rfl⟩
  | refused =>
      exact .inl ⟨_, rfl⟩

/-- A run of rules adds the productions of those that were granted, and changes nothing else. -/
theorem after_of_rules
    (g : Grammar)
    (hpart : ∀ d ∈ part, d.item.isRule = true) :
    ∃ ps, g.after part = { g with productions := g.productions ++ ps } ∧
      List.Forall₂ (Declaration.Produces g.symbols) (g.answers part).granted ps := by
  induction part generalizing g with
  | nil =>
      exact ⟨[], by simp, .nil⟩
  | cons d part ih =>
      obtain ⟨hd, hpart⟩ := List.forall_mem_cons.1 hpart
      rw [after_cons, answers_cons]
      obtain ⟨fault, hasked⟩ | ⟨p, hp, hasked⟩ := g.ask_rule hd
      · rw [hasked]
        exact ih g hpart
      · rw [hasked]
        obtain ⟨ps, hps, hall⟩ := ih (g.addProduction p) hpart
        refine ⟨p :: ps, ?_, .cons hp hall⟩
        rw [hps, addProduction, List.append_assoc, List.singleton_append]

/-- Whether a rule fails, and how, depends on the symbols only. -/
theorem ask_rule_error_iff
    {fault : Fault}
    (hd : d.isRule = true)
    (hsymbols : g.symbols = g'.symbols) :
    (g.ask d).1 = .error fault ↔ (g'.ask d).1 = .error fault := by
  cases d with
  | rule antecedent consequent =>
      simp only [ask, carryOut, addRule_eq, hsymbols]
      cases g'.symbols.production antecedent consequent with
      | error _ =>
          rfl
      | ok p =>
          constructor <;> intro h <;> cases h
  | terminal name pattern | nonterminal name | start name | endMarker value =>
      cases hd

/-- In a run of rules, each is judged as it would be by any grammar with the same symbols. -/
theorem answers_of_rules
    {answer : Except Fault (Option Nat)} {fault : Fault} {d : Spanned Declaration}
    (hpart : ∀ d ∈ part, d.item.isRule = true)
    (hsymbols : g.symbols = g'.symbols)
    (hmem : (d, answer) ∈ g.answers part) :
    answer = .error fault ↔ (g'.ask d.item).1 = .error fault := by
  induction part generalizing g with
  | nil =>
      cases hmem
  | cons first part ih =>
      obtain ⟨hfirst, hpart⟩ := List.forall_mem_cons.1 hpart
      rcases List.mem_cons.1 hmem with heq | hmem
      · cases heq
        exact ask_rule_error_iff hfirst hsymbols
      · refine ih hpart ?_ hmem
        obtain ⟨_, hasked⟩ | ⟨_, _, hasked⟩ := g.ask_rule hfirst <;> rw [hasked] <;> exact hsymbols

end Grammar

/-! ### The loaded grammar -/

namespace Grammar

/-- A grammar of these symbol declarations and these rules, and of non-terminals for the left-hand
sides in a document that no symbol declaration names.  Symbols and productions stand in the order of
the document, and the last choices of an end marker and of a start symbol count. -/
structure Consists (g : Grammar) (document : Document) (declared rules : List Declaration) :
    Prop where
  symbols_eq :
    g.symbols =
      (SymbolTable.ofDeclarations declared).pushNonterminals
        (document.missing (.ofDeclarations declared))
  id?_declared :
    ∀ i s, (declared.filterMap Declaration.symbol?)[i]? = some s →
      g.symbols.id? s.name = some (2 + i)
  id?_missing :
    ∀ i name, (document.missing (.ofDeclarations declared))[i]? = some name →
      g.symbols.id? name = some (2 + (declared.filterMap Declaration.symbol?).length + i)
  produces : List.Forall₂ (Declaration.Produces g.symbols) rules g.productions
  startName_eq : g.startName = (declared.filterMap Declaration.start?).getLast?

end Grammar

namespace SymbolTable

variable {t : SymbolTable} {id : SymbolId} {s : Symbol}

/-- A symbol has the number of its place. -/
theorem Reachable.id?_of_getElem?
    (ht : t.Reachable)
    (h : t.symbols[id]? = some s) :
    t.id? s.name = some id := by
  obtain ⟨hlt, rfl⟩ := List.getElem?_eq_some_iff.1 h
  rw [← name_eq_getElem hlt]
  exact ht.id?_name hlt

end SymbolTable

namespace Document

/-- The answers to the symbol declarations of a document. -/
def symbolAnswers (document : Document) : Answers :=
  Grammar.initial.answers (document.filter (!·.item.isRule))

/-- The grammar after the symbol declarations. -/
def declared (document : Document) : Grammar :=
  Grammar.initial.after (document.filter (!·.item.isRule))

/-- The grammar to which the rules are added. -/
def opened (document : Document) : Grammar :=
  { document.declared with
    symbols :=
      document.declared.symbols.pushNonterminals (document.missing document.declared.symbols) }

/-- The answers to the rules of a document. -/
def ruleAnswers (document : Document) : Answers :=
  document.opened.answers (document.filter (·.item.isRule))

variable (document : Document)

theorem load_eq :
    document.load =
      { grammar := document.opened.after (document.filter (·.item.isRule))
        faults := document.symbolAnswers.failed ++ document.ruleAnswers.failed } := by
  rw [load, Loading.pass_declareSymbol, Loading.pass_declareAntecedent, Loading.pass_declareRule]
  rfl

theorem isRule_of_mem_filter :
    ∀ d ∈ document.filter (·.item.isRule), d.item.isRule = true :=
  fun _ hd => (List.mem_filter.1 hd).2

/-- The rules add productions to the symbols of the first two passes. -/
theorem load_grammar :
    ∃ ps, document.load.grammar = { document.opened with productions := ps } ∧
      List.Forall₂ (Declaration.Produces document.opened.symbols) document.ruleAnswers.granted
        ps := by
  obtain ⟨ps, hps, hall⟩ := document.opened.after_of_rules document.isRule_of_mem_filter
  have hnone : document.opened.productions = [] := by
    refine Grammar.initial.productions_after_of_symbols fun d hd => ?_
    simpa using (List.mem_filter.1 hd).2
  refine ⟨ps, ?_, hall⟩
  rw [load_eq, hps, hnone, List.nil_append]

theorem symbols_declared :
    document.declared.symbols = .ofDeclarations document.symbolAnswers.granted := by
  have hinitial : Grammar.initial.symbols = .withMarker "$" [] := rfl
  exact Grammar.symbols_after hinitial _

/-- A loaded grammar is made of the declarations that did not fail. -/
theorem load_consists :
    document.load.grammar.Consists document document.symbolAnswers.granted
      document.ruleAnswers.granted := by
  obtain ⟨ps, hload, hall⟩ := document.load_grammar
  have hsymbols : document.load.grammar.symbols =
      (SymbolTable.ofDeclarations document.symbolAnswers.granted).pushNonterminals
        (document.missing (.ofDeclarations document.symbolAnswers.granted)) := by
    rw [hload, ← symbols_declared]
    rfl
  -- a symbol has the number of its place, and two symbols come before the declared ones
  have hid : ∀ i s,
      (document.symbolAnswers.granted.filterMap Declaration.symbol? ++
        (document.missing (.ofDeclarations document.symbolAnswers.granted)).map
          fun name => ⟨name, .nonterminal⟩)[i]? = some s →
      document.load.grammar.symbols.id? s.name = some (2 + i) := by
    intro i s hs
    refine document.reachable_load.symbols.id?_of_getElem? ?_
    rw [hsymbols, Nat.add_comm]
    exact hs
  constructor
  case symbols_eq =>
    exact hsymbols
  case id?_declared =>
    intro i s hs
    obtain ⟨hlt, _⟩ := List.getElem?_eq_some_iff.1 hs
    exact hid i s (by rw [List.getElem?_append_left hlt, hs])
  case id?_missing =>
    intro i name hname
    rw [Nat.add_assoc]
    refine hid _ ⟨name, .nonterminal⟩ ?_
    rw [List.getElem?_append_right (Nat.le_add_right _ _), Nat.add_sub_cancel_left,
      List.getElem?_map, hname]
    rfl
  case produces =>
    rw [hload]
    exact hall
  case startName_eq =>
    rw [hload]
    exact (Grammar.initial.startName_after _).trans Option.or_none

/-- The left-hand sides of all rules are symbols of the loaded grammar. -/
theorem contains_antecedent
    {d : Spanned Declaration} {antecedent : String}
    (hd : d ∈ document)
    (hantecedent : d.item.antecedent? = some antecedent) :
    document.load.grammar.symbols.contains antecedent = true := by
  rw [document.load_consists.symbols_eq, SymbolTable.contains_pushNonterminals]
  generalize SymbolTable.ofDeclarations document.symbolAnswers.granted = t
  cases hused : t.contains antecedent with
  | true =>
      exact .inl rfl
  | false =>
      refine .inr (List.mem_eraseDups.2 (List.mem_filter.2 ⟨?_, by simp [hused]⟩))
      exact List.mem_filterMap.2 ⟨d, hd, hantecedent⟩

theorem result_load :
    document.load.result =
      if (document.symbolAnswers ++ document.ruleAnswers).failed = [] then
        .ok document.load.grammar
      else .error (document.symbolAnswers ++ document.ruleAnswers).failed := by
  have hfaults : document.load.faults = (document.symbolAnswers ++ document.ruleAnswers).failed := by
    rw [load_eq, Answers.failed_append]
  simp only [Loading.result, hfaults, List.isEmpty_iff]

/-- Where nothing fails, the loaded grammar is made of all declarations. -/
theorem consists_of_result_eq_ok
    {g : Grammar}
    (h : document.load.result = .ok g) :
    g.Consists document ((document.filter (!·.item.isRule)).map Spanned.item)
      ((document.filter (·.item.isRule)).map Spanned.item) := by
  rw [result_load] at h
  split at h
  · rename_i hnone
    cases h
    rw [Answers.failed_append, List.append_eq_nil_iff] at hnone
    have hconsists := document.load_consists
    rwa [Answers.granted_of_failed_eq_nil hnone.1, Answers.granted_of_failed_eq_nil hnone.2,
      symbolAnswers, ruleAnswers, Grammar.map_fst_answers, Grammar.map_fst_answers] at hconsists
  · cases h

/-- **Loading tells every failure, and keeps everything else.**  There is a grammar if and only if no
declaration fails.  Otherwise the faults are those of the declarations that fail, each at its place,
those of symbol declarations before those of rules.  Whatever fails, the loaded grammar is made of
the other declarations and of non-terminals for left-hand sides, which never fail; every rule is
judged by all of its symbols. -/
theorem load_accounts :
    ((∃ faults, document.load.result = .error faults) ↔
      ∃ d fault, (d, .error fault) ∈ document.symbolAnswers ++ document.ruleAnswers) ∧
    (∀ faults, document.load.result = .error faults →
      faults = document.symbolAnswers.failed ++ document.ruleAnswers.failed) ∧
    document.symbolAnswers.map Prod.fst = document.filter (!·.item.isRule) ∧
    document.ruleAnswers.map Prod.fst = document.filter (·.item.isRule) ∧
    document.load.grammar.Consists document document.symbolAnswers.granted
      document.ruleAnswers.granted ∧
    (∀ g d, ∃ g', Loading.declareAntecedent g d = .ok g') ∧
    (∀ d ∈ document, ∀ antecedent, d.item.antecedent? = some antecedent →
      document.load.grammar.symbols.contains antecedent = true) ∧
    (∀ d answer fault, (d, answer) ∈ document.ruleAnswers →
      (answer = .error fault ↔ (document.load.grammar.ask d.item).1 = .error fault)) ∧
    ∀ g, document.load.result = .ok g →
      g.Consists document ((document.filter (!·.item.isRule)).map Spanned.item)
        ((document.filter (·.item.isRule)).map Spanned.item) := by
  refine ⟨?_, fun faults h => ?_, Grammar.map_fst_answers _ _, Grammar.map_fst_answers _ _,
    document.load_consists, Loading.declareAntecedent_ok,
    fun _ hd _ => document.contains_antecedent hd, fun _ _ _ => ?_,
    fun _ => document.consists_of_result_eq_ok⟩
  · rw [result_load]
    split
    · rename_i hnone
      exact iff_of_false nofun (by simpa using Answers.failed_eq_nil_iff.1 hnone)
    · rename_i hsome
      rw [Answers.failed_eq_nil_iff] at hsome
      push Not at hsome
      exact iff_of_true ⟨_, rfl⟩ hsome
  · rw [result_load] at h
    split at h <;> cases h
    exact Answers.failed_append _ _
  · obtain ⟨ps, hload, _⟩ := document.load_grammar
    exact Grammar.answers_of_rules document.isRule_of_mem_filter (by rw [hload])

/-- Two lines declare names that are in use, one of them since the end marker was renamed.  A rule
begins with its own left-hand side, and the last one cannot be split. -/
def mixed : Document :=
  [⟨⟨0, 7⟩, .rule "S" "Sa"⟩, ⟨⟨8, 21⟩, .terminal "a" "a"⟩, ⟨⟨22, 35⟩, .terminal "a" "b"⟩,
    ⟨⟨36, 51⟩, .endMarker "#"⟩, ⟨⟨52, 65⟩, .terminal "$" "b"⟩, ⟨⟨66, 79⟩, .terminal "#" "c"⟩,
    ⟨⟨80, 87⟩, .rule "S" "aT"⟩, ⟨⟨88, 94⟩, .rule "T" "$b"⟩]

/-- A rule that mentions the left-hand side of a later one. -/
def forward : Document :=
  [⟨⟨0, 7⟩, .rule "S" "aT"⟩, ⟨⟨8, 13⟩, .rule "T" ""⟩, ⟨⟨14, 27⟩, .terminal "a" "a"⟩,
    ⟨⟨28, 41⟩, .start "S"⟩]

/-- Four faults of the one document, which leave the rule between them, and none of the other, whose
left-hand sides are numbered after its terminal. -/
theorem load_accounts_mixed :
    (mixed.load.result =
        .error
          [⟨.duplicateSymbol "a", some ⟨22, 35⟩⟩, ⟨.duplicateSymbol "#", some ⟨66, 79⟩⟩,
            ⟨.leftRecursion "S" "S a", some ⟨0, 7⟩⟩, ⟨.unsplittable "$b" "b", some ⟨88, 94⟩⟩] ∧
      mixed.symbolAnswers.failed.length + mixed.ruleAnswers.failed.length = 4 ∧
      List.Forall₂ (Declaration.Produces mixed.load.grammar.symbols) mixed.ruleAnswers.granted
        [⟨4, [2, 5]⟩]) ∧
    ∃ g, forward.load.result = .ok g ∧ g.symbols.id? "T" = some 4 ∧ g.startName = some "S" := by
  constructor
  · obtain ⟨_, hfaults, _, _, hconsists, _⟩ := load_accounts mixed
    have hresult : mixed.load.result = .error
        [⟨.duplicateSymbol "a", some ⟨22, 35⟩⟩, ⟨.duplicateSymbol "#", some ⟨66, 79⟩⟩,
          ⟨.leftRecursion "S" "S a", some ⟨0, 7⟩⟩, ⟨.unsplittable "$b" "b", some ⟨88, 94⟩⟩] := by
      cbv
    have hlength := congrArg List.length (hfaults _ hresult)
    rw [List.length_append] at hlength
    have hproductions : mixed.load.grammar.productions = [⟨4, [2, 5]⟩] := by
      cbv
    exact ⟨hresult, hlength.symm, hproductions ▸ hconsists.produces⟩
  · obtain ⟨_, _, _, _, _, _, _, _, hok⟩ := load_accounts forward
    have hresult : forward.load.result = .ok forward.load.grammar := by
      cbv
    have hconsists := hok _ hresult
    exact ⟨_, hresult, hconsists.id?_missing 1 "T" (by cbv),
      hconsists.startName_eq.trans (by cbv)⟩

end Document

end PredictiveParsing

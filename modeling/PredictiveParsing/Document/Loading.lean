import PredictiveParsing.Document
import PredictiveParsing.Grammar

/-!
# From declarations to a grammar

A document is gone through three times.  The first time registers the declared symbols, the second
makes a non-terminal of every left-hand side that is not declared, and the third adds the rules.  A
declaration that fails changes nothing, and all failures are kept.
-/

namespace PredictiveParsing

/-- A grammar that is being loaded, and what went wrong so far. -/
structure Loading where
  grammar : Grammar := .initial
  faults : List PlacedFault := []
deriving DecidableEq, Repr

namespace Loading

/-- Registers the symbol of a declaration, or records its choice of a start symbol. -/
def declareSymbol (g : Grammar) : Declaration → Except Fault Grammar
  | .terminal name pattern => (g.registerTerminal name pattern).map Prod.snd
  | .nonterminal name => (g.registerNonterminal name).map Prod.snd
  | .start name => .ok (g.setStart name)
  | .endMarker value => g.setEndMarker value
  | .rule _ _ => .ok g

/-- Registers the left-hand side of a rule, unless a symbol has its name. -/
def declareAntecedent (g : Grammar) : Declaration → Except Fault Grammar
  | .rule antecedent _ =>
      if g.symbols.contains antecedent then .ok g
      else (g.registerNonterminal antecedent).map Prod.snd
  | _ => .ok g

/-- Adds the production of a rule. -/
def declareRule (g : Grammar) : Declaration → Except Fault Grammar
  | .rule antecedent consequent => (g.addRule antecedent consequent).map Prod.snd
  | _ => .ok g

/-- Takes one declaration into account. -/
def step (declare : Grammar → Declaration → Except Fault Grammar) (l : Loading)
    (d : Spanned Declaration) : Loading :=
  match declare l.grammar d.item with
  | .ok g => { l with grammar := g }
  | .error fault => { l with faults := l.faults ++ [fault.placed d.span] }

/-- Takes all declarations into account. -/
def pass (declare : Grammar → Declaration → Except Fault Grammar) (l : Loading)
    (document : Document) : Loading :=
  document.foldl (step declare) l

/-- The grammar, if nothing went wrong. -/
def result (l : Loading) : Except (List PlacedFault) Grammar :=
  if l.faults.isEmpty then .ok l.grammar else .error l.faults

end Loading

namespace Document

/-- Builds the grammar of a document. -/
def load (document : Document) : Loading :=
  let symbols := Loading.pass Loading.declareSymbol {} document
  let antecedents := Loading.pass Loading.declareAntecedent symbols document
  Loading.pass Loading.declareRule antecedents document

end Document

namespace Grammar

/-- The grammar of a text. -/
def ofText (text : String) : Except (List PlacedFault) Grammar := do
  (← (Document.read text).result).load.result

end Grammar
end PredictiveParsing

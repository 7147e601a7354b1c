import PredictiveParsing.Grammar.Split

/-!
# Grammars

A grammar is a symbol table with productions, in the order in which their rules were added, and the
name of a start symbol, which is checked only when it is needed.
-/

namespace PredictiveParsing

/-- A production.  Its right-hand side is never empty: the empty text is `EPSILON`. -/
structure Production where
  lhs : SymbolId
  rhs : List SymbolId
deriving DecidableEq, Repr

/-- Whether the production says that its non-terminal may vanish. -/
def Production.isEmpty (p : Production) : Bool :=
  p.rhs == [epsilon]

structure Grammar where
  symbols : SymbolTable
  productions : List Production := []
  startName : Option String := none
deriving DecidableEq, Repr

namespace Grammar

/-- The grammar before any declaration. -/
def initial : Grammar where
  symbols := .initial

def isTerminal (g : Grammar) (id : SymbolId) : Bool :=
  g.symbols.isTerminal id

def name (g : Grammar) (id : SymbolId) : String :=
  g.symbols.name id

/-- The names of symbols with blanks between them. -/
def showSymbols (g : Grammar) (ids : List SymbolId) : String :=
  " ".intercalate (g.symbols.names ids)

def showProduction (g : Grammar) (p : Production) : String :=
  g.name p.lhs ++ " -> " ++ g.showSymbols p.rhs

/-- The production of this index as text; there is none for an index without a production. -/
def showIndex (g : Grammar) (ix : Nat) : String :=
  match g.productions[ix]? with
  | some p => g.showProduction p
  | none => ""

/-- The indices of the productions that satisfy `p`, in ascending order. -/
def indicesWhere (g : Grammar) (p : Production → Bool) : List Nat :=
  (g.productions.zipIdx.filter fun e => p e.1).map Prod.snd

/-- The indices of the productions of a non-terminal. -/
def productionsOf (g : Grammar) (nt : SymbolId) : List Nat :=
  g.indicesWhere fun p => p.lhs == nt

/-- The indices of the productions whose right-hand side mentions a symbol. -/
def productionsContaining (g : Grammar) (id : SymbolId) : List Nat :=
  g.indicesWhere fun p => p.rhs.contains id

/-- The non-terminals with a production, in the order of their first ones. -/
def antecedents (g : Grammar) : List SymbolId :=
  (g.productions.map Production.lhs).eraseDups

/-- Each non-terminal with a production, and the indices of its productions. -/
def rules (g : Grammar) : List (SymbolId × List Nat) :=
  g.antecedents.map fun nt => (nt, g.productionsOf nt)

def hasEmptyProduction (g : Grammar) (nt : SymbolId) : Bool :=
  g.productions.any fun p => p.lhs == nt && p.isEmpty

/-- Splits a right-hand side and adds it as the last production; gives its index. -/
def addRule (g : Grammar) (antecedent consequent : String) : Except Fault (Nat × Grammar) := do
  let nt ← g.symbols.resolve antecedent
  if g.isTerminal nt then throw (.notNonterminal antecedent)
  let rhs ← g.symbols.split consequent
  if rhs.head? = some nt then throw (.leftRecursion antecedent (g.showSymbols rhs))
  return (g.productions.length,
    { g with productions := g.productions ++ [{ lhs := nt, rhs := rhs }] })

/-- Chooses a start symbol by name. -/
def setStart (g : Grammar) (name : String) : Grammar :=
  { g with startName := some name }

/-- The start symbol: a non-terminal with at least one production. -/
def start (g : Grammar) : Except Fault SymbolId := do
  match g.startName with
  | none => throw .missingStart
  | some name =>
      let nt ← g.symbols.resolve name
      if g.isTerminal nt then throw (.notNonterminal name)
      if (g.productionsOf nt).isEmpty then throw (.startWithoutProduction name)
      return nt

def registerTerminal (g : Grammar) (name pattern : String) :
    Except Fault (SymbolId × Grammar) := do
  let (id, symbols) ← g.symbols.registerTerminal name pattern
  return (id, { g with symbols := symbols })

def registerNonterminal (g : Grammar) (name : String) : Except Fault (SymbolId × Grammar) := do
  let (id, symbols) ← g.symbols.registerNonterminal name
  return (id, { g with symbols := symbols })

def setEndMarker (g : Grammar) (value : String) : Except Fault Grammar := do
  return { g with symbols := ← g.symbols.setEndMarker value }

end Grammar
end PredictiveParsing

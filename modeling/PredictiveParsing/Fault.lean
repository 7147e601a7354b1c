import PredictiveParsing.Text.Position

/-!
# Faults of a grammar

The ways in which a declaration, a rule or the choice of a start symbol can be wrong, and their
messages.
-/

namespace PredictiveParsing

/-- What is wrong in a grammar. -/
inductive Fault where
  /-- the name belongs to a symbol already -/
  | duplicateSymbol (name : String)
  /-- no symbol has the name -/
  | unknownSymbol (name : String)
  | notTerminal (name : String)
  | notNonterminal (name : String)
  /-- no symbol begins `residue`, the end of `text` -/
  | unsplittable (text residue : String)
  /-- a right-hand side that begins with the left-hand side -/
  | leftRecursion (antecedent production : String)
  | missingStart
  | startWithoutProduction (name : String)
  /-- a line that is no declaration -/
  | malformed (message : String)
deriving DecidableEq, Repr

/-- What a line in a text takes up, in bytes. -/
structure Span where
  first : Nat
  stop : Nat
deriving DecidableEq, Repr

/-- A thing and where it stands in a text. -/
structure Spanned (α : Type) where
  span : Span
  item : α
deriving DecidableEq, Repr

/-- A fault, and its place where that is known. -/
structure PlacedFault where
  fault : Fault
  span : Option Span := none
deriving DecidableEq, Repr

namespace Fault

def message : Fault → String
  | .duplicateSymbol name => "symbol `" ++ name ++ "` is already declared"
  | .unknownSymbol name => "symbol `" ++ name ++ "` is not declared"
  | .notTerminal name => "`" ++ name ++ "` is not a terminal"
  | .notNonterminal name => "`" ++ name ++ "` is not a non-terminal"
  | .unsplittable text residue =>
      "cannot split `" ++ text ++ "`: `" ++ residue ++ "` is not a known symbol"
  | .leftRecursion antecedent production =>
      "left recursion in `" ++ antecedent ++ " -> " ++ production ++ "`"
  | .missingStart => "missing start symbol"
  | .startWithoutProduction name => "start symbol `" ++ name ++ "` has no production"
  | .malformed message => message

/-- The fault, at no known place. -/
def unplaced (fault : Fault) : PlacedFault :=
  { fault := fault }

/-- The fault at a place. -/
def placed (fault : Fault) (span : Span) : PlacedFault :=
  { fault := fault, span := some span }

end Fault
end PredictiveParsing

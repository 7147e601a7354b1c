import PredictiveParsing.Grammar
import PredictiveParsing.SymbolSet

/-!
# FIRST and FOLLOW

The terminals that can begin what a non-terminal derives, with `EPSILON` where it may vanish, and
the terminals that can come after it.  Both are least sets closed under the productions.

**Algorithm.**  A pass goes through all productions and enlarges the sets in place; passes are made
until one of them changes nothing.  Every other pass makes a set larger, and a set has no more
members than there are symbols, so `passLimit` passes are always enough.
-/

namespace PredictiveParsing

/-- Sets of symbols, by symbol.  A symbol may have no entry, which is not the same as an empty
set. -/
structure SetMap where
  entries : List (SymbolId × SymbolSet) := []
deriving DecidableEq, Repr

namespace SetMap

def get? (m : SetMap) (id : SymbolId) : Option SymbolSet :=
  m.entries.lookup id

/-- The set of a symbol, empty if it has no entry. -/
def get (m : SetMap) (id : SymbolId) : SymbolSet :=
  (m.get? id).getD .empty

def putIn (id : SymbolId) (s : SymbolSet) :
    List (SymbolId × SymbolSet) → List (SymbolId × SymbolSet)
  | [] => [(id, s)]
  | e :: es => if e.1 = id then (id, s) :: es else e :: putIn id s es

/-- Gives a symbol a new set. -/
def put (m : SetMap) (id : SymbolId) (s : SymbolSet) : SetMap where
  entries := putIn id s m.entries

/-- Adds members to the set of a symbol, which has an entry from then on. -/
def enlarge (m : SetMap) (id : SymbolId) (s : SymbolSet) : SetMap :=
  m.put id ((m.get id).union s)

/-- Empty sets for the given symbols. -/
def blank (ids : List SymbolId) : SetMap where
  entries := ids.map fun id => (id, .empty)

/-- A number above all members of all sets. -/
def width (m : SetMap) : Nat :=
  (m.entries.map fun e => e.2.width).foldl max 0

end SetMap

/-- A value that no further pass changes, and the number of passes made, the last one included. -/
structure Saturated (α : Type) where
  value : α
  passes : Nat
deriving DecidableEq, Repr

/-- Makes passes until one changes nothing, but no more than `limit`. -/
def saturate {α : Type} [DecidableEq α] (pass : α → α) : Nat → α → Saturated α
  | 0, x => { value := x, passes := 0 }
  | limit + 1, x =>
      if pass x = x then { value := x, passes := 1 }
      else
        let s := saturate pass limit (pass x)
        { s with passes := s.passes + 1 }

namespace Grammar

/-- FIRST of a sequence of symbols, given the sets of the non-terminals.  `EPSILON` takes part only
as the sign that the whole sequence may vanish, and a non-terminal without an entry ends what is
known. -/
def firstOf (g : Grammar) (first : SetMap) : List SymbolId → SymbolSet
  | [] => .singleton epsilon
  | id :: rest =>
      if id = epsilon then g.firstOf first rest
      else if g.isTerminal id then .singleton id
      else
        match first.get? id with
        | none => .empty
        | some s =>
            if s.contains epsilon then (s.erase epsilon).union (g.firstOf first rest)
            else s

/-- More passes than any saturation of sets with members below `width` can need. -/
def passLimit (g : Grammar) (width : Nat) : Nat :=
  let places := g.productions.foldr (fun p n => p.rhs.length + 1 + n) 0
  (g.symbols.size + places + 1) * (width + 2)

/-- One pass over the productions for FIRST. -/
def firstPass (g : Grammar) (first : SetMap) : SetMap :=
  g.productions.foldl (fun m p => m.enlarge p.lhs (g.firstOf m p.rhs)) first

/-- The FIRST sets of all non-terminals. -/
def firstSets (g : Grammar) : Saturated SetMap :=
  saturate g.firstPass (g.passLimit (max g.symbols.size 2)) (.blank g.symbols.nonterminals)

/-- What may follow a symbol of a right-hand side that ends with `rest`. -/
def trailing (g : Grammar) (first follow : SetMap) (lhs : SymbolId) (rest : List SymbolId) :
    SymbolSet :=
  let s := g.firstOf first rest
  if s.contains epsilon then (s.erase epsilon).union (follow.get lhs) else s

/-- Enlarges FOLLOW for every non-terminal of a right-hand side, from left to right. -/
def followRhs (g : Grammar) (first : SetMap) (lhs : SymbolId) :
    List SymbolId → SetMap → SetMap
  | [], follow => follow
  | id :: rest, follow =>
      if g.isTerminal id then g.followRhs first lhs rest follow
      else
        g.followRhs first lhs rest (follow.enlarge id (g.trailing first follow lhs rest))

/-- One pass over the productions for FOLLOW. -/
def followPass (g : Grammar) (first follow : SetMap) : SetMap :=
  g.productions.foldl (fun m p => g.followRhs first p.lhs p.rhs m) follow

/-- The FOLLOW sets of all non-terminals, for the given FIRST sets.  The end marker follows the start
symbol. -/
def followSets (g : Grammar) (first : SetMap) : Except Fault (Saturated SetMap) := do
  let start ← g.start
  let seed := (SetMap.blank g.symbols.nonterminals).enlarge start (.singleton endMarker)
  return saturate (g.followPass first)
    (g.passLimit (max (max g.symbols.size 2) first.width)) seed

end Grammar

/-- The FIRST and the FOLLOW sets of a grammar. -/
structure FirstFollow where
  first : SetMap := {}
  follow : SetMap := {}
deriving DecidableEq, Repr

namespace FirstFollow

/-- Replaces the FIRST sets, whatever they were, by those of a grammar. -/
def withFirst (sets : FirstFollow) (g : Grammar) : FirstFollow :=
  { sets with first := g.firstSets.value }

/-- Replaces the FOLLOW sets by those of a grammar, for the FIRST sets at hand. -/
def withFollow (sets : FirstFollow) (g : Grammar) : Except Fault FirstFollow := do
  return { sets with follow := (← g.followSets sets.first).value }

/-- Computes both kinds of sets.  FOLLOW needs a start symbol. -/
def ofGrammar (g : Grammar) : Except Fault FirstFollow :=
  (FirstFollow.withFirst {} g).withFollow g

/-- The terminals on which a production is to be chosen: those that can begin it, and those that can
follow its non-terminal if it may vanish. -/
def predict (g : Grammar) (sets : FirstFollow) (p : Production) : SymbolSet :=
  g.trailing sets.first sets.follow p.lhs p.rhs

end FirstFollow
end PredictiveParsing

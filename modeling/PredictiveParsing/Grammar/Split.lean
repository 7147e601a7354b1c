import PredictiveParsing.Symbol

/-!
# Splitting a right-hand side

A right-hand side is written without separators.  `SymbolTable.split` recovers its symbols from the
left, always taking the longest name that fits.
-/

namespace PredictiveParsing
namespace SymbolTable

/-- The symbols whose names are not empty and begin the text, with the lengths of the names. -/
def candidates (t : SymbolTable) (text : List Char) : List (SymbolId × Nat) :=
  t.symbols.zipIdx.filterMap fun (s, id) =>
    let name := s.name.toList
    if !name.isEmpty && name.isPrefixOf text then some (id, name.length) else none

/-- The longest of the candidates, the first of several. -/
def longest : List (SymbolId × Nat) → Option (SymbolId × Nat)
  | [] => none
  | c :: cs =>
      match longest cs with
      | some d => if c.2 < d.2 then some d else some c
      | none => some c

/-- The symbol with the longest name that begins the text. -/
def longestName? (t : SymbolTable) (text : List Char) : Option (SymbolId × Nat) :=
  longest (t.candidates text)

/-- The symbols of a text, or the end of it that begins with no name. -/
def splitFrom (t : SymbolTable) (text : List Char) : Except (List Char) (List SymbolId) :=
  match text with
  | [] => .ok []
  | c :: rest =>
      match t.longestName? (c :: rest) with
      | none => .error (c :: rest)
      | some (id, length) =>
          match t.splitFrom (rest.drop (length - 1)) with
          | .ok ids => .ok (id :: ids)
          | .error residue => .error residue
termination_by text.length
decreasing_by
  simp only [List.length_drop, List.length_cons]
  omega

/-- The symbols of a right-hand side.  The empty text is `EPSILON`, written or not. -/
def split (t : SymbolTable) (text : String) : Except Fault (List SymbolId) :=
  if text = "" ∨ text = epsilonName then .ok [epsilon]
  else
    match t.splitFrom text.toList with
    | .ok ids => .ok ids
    | .error residue => .error (.unsplittable text (String.ofList residue))

end SymbolTable
end PredictiveParsing

import PredictiveParsing.Text.Basic

/-!
# Positions in a text

The line and the column of a byte offset, both counted from one, the column in characters.
-/

namespace PredictiveParsing
namespace Text

/-- A place in a text, as a person counts: lines and columns from one. -/
structure Position where
  line : Nat
  column : Nat
deriving DecidableEq, Repr

/-- The characters that take up the first `offset` bytes, if these end between two characters. -/
def takeBytes? : Nat → List Char → Option (List Char)
  | 0, _ => some []
  | _ + 1, [] => none
  | n + 1, c :: cs =>
      if c.utf8Size ≤ n + 1 then (takeBytes? (n + 1 - c.utf8Size) cs).map (c :: ·)
      else none

/-- The position after the given characters. -/
def Position.after (cs : List Char) : Position where
  line := cs.count '\n' + 1
  column := (cs.reverse.takeWhile (· ≠ '\n')).length + 1

/--
The position of a byte offset.  An offset past the end, or inside a character, gets the position
after the whole text.
-/
def position (text : List Char) (offset : Nat) : Position :=
  .after ((takeBytes? offset text).getD text)

end Text
end PredictiveParsing

/-!
# Sets of characters

A set of characters is a list of closed intervals of code points, in ascending order and with a gap
between any two of them, so that equal sets have equal lists.  `CharSet.ofIntervals` brings any list
of intervals into this form, and every operation below ends with it.
-/

namespace PredictiveParsing

/-- A set of characters, as ascending intervals of code points. -/
structure CharSet where
  intervals : List (Nat × Nat)
deriving DecidableEq, Repr

namespace CharSet

/-- The last code point. -/
def maxCodePoint : Nat :=
  0x10ffff

/-- Joins intervals that meet; `lo` and `hi` bound the interval being grown. -/
def joinFrom (lo hi : Nat) : List (Nat × Nat) → List (Nat × Nat)
  | [] => [(lo, hi)]
  | (a, b) :: rest =>
      if a ≤ hi + 1 then joinFrom lo (max hi b) rest
      else (lo, hi) :: joinFrom a b rest

/-- The set of the code points that lie in one of the intervals. -/
def ofIntervals (intervals : List (Nat × Nat)) : CharSet :=
  match intervals.mergeSort (fun i j => i.1 ≤ j.1) with
  | [] => ⟨[]⟩
  | (a, b) :: rest => ⟨joinFrom a b rest⟩

/-- The set with no character. -/
def empty : CharSet :=
  ⟨[]⟩

/-- The set of all characters. -/
def all : CharSet :=
  ⟨[(0, maxCodePoint)]⟩

/-- The characters with a code of seven bits. -/
def ascii : CharSet :=
  ⟨[(0, 0x7f)]⟩

/-- The characters from `first` to `last`. -/
def range (first last : Char) : CharSet :=
  ⟨[(first.toNat, last.toNat)]⟩

/-- The set of one character. -/
def singleton (c : Char) : CharSet :=
  range c c

def containsCode (s : CharSet) (n : Nat) : Bool :=
  s.intervals.any fun i => i.1 ≤ n && n ≤ i.2

def contains (s : CharSet) (c : Char) : Bool :=
  s.containsCode c.toNat

def union (s t : CharSet) : CharSet :=
  ofIntervals (s.intervals ++ t.intervals)

def unions (sets : List CharSet) : CharSet :=
  ofIntervals (sets.flatMap intervals)

/-- The gaps between the intervals, from `next` on. -/
def gapsFrom (next : Nat) : List (Nat × Nat) → List (Nat × Nat)
  | [] => if next ≤ maxCodePoint then [(next, maxCodePoint)] else []
  | (a, b) :: rest =>
      if next < a then (next, a - 1) :: gapsFrom (b + 1) rest else gapsFrom (b + 1) rest

/-- The characters that are not in the set. -/
def compl (s : CharSet) : CharSet :=
  ⟨gapsFrom 0 s.intervals⟩

def inter (s t : CharSet) : CharSet :=
  (s.compl.union t.compl).compl

def diff (s t : CharSet) : CharSet :=
  s.inter t.compl

/-- The characters in exactly one of the two sets. -/
def symmDiff (s t : CharSet) : CharSet :=
  (s.diff t).union (t.diff s)

/-- Whether every character of the set has a code of seven bits. -/
def isAscii (s : CharSet) : Bool :=
  s.intervals.all fun i => i.2 ≤ 0x7f

/-- The value of a hexadecimal digit. -/
def hexDigit? (c : Char) : Option Nat :=
  if '0' ≤ c ∧ c ≤ '9' then some (c.toNat - '0'.toNat)
  else if 'a' ≤ c ∧ c ≤ 'f' then some (c.toNat - 'a'.toNat + 10)
  else if 'A' ≤ c ∧ c ≤ 'F' then some (c.toNat - 'A'.toNat + 10)
  else none

/-- The value of a hexadecimal numeral; characters that are no digits count as zero. -/
def hexValue (digits : List Char) : Nat :=
  digits.foldl (fun n c => 16 * n + (hexDigit? c).getD 0) 0

/-- Reads a list of hexadecimal code points and intervals such as `41-5a 5f 61-7a`. -/
def ofHex (text : String) : CharSet :=
  ofIntervals <| (text.splitOn " ").filterMap fun item =>
    match item.splitOn "-" with
    | [a] => some (hexValue a.toList, hexValue a.toList)
    | [a, b] => some (hexValue a.toList, hexValue b.toList)
    | _ => none

/-- The same for a list that takes several lines. -/
def ofHexLines (lines : List String) : CharSet :=
  unions (lines.map ofHex)

end CharSet
end PredictiveParsing

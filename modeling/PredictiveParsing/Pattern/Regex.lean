import PredictiveParsing.CharSet
import Std.Data.HashSet.Lemmas

/-!
# Regular expressions

Regular expressions over characters, with conditions on the place where they stand.  A place is
known by the characters on its two sides.  `Regex.longest?` finds the longest beginning of a text
that an expression matches; it follows the expressions that are left after each character
(`Regex.derive`), and a set of them stands for all ways to go on.
-/

namespace PredictiveParsing

/-- A place in a text: the characters before and after it, where there are any. -/
structure Place where
  before : Option Char
  after : Option Char
deriving DecidableEq, Repr

namespace Place

/-- Letters, digits and the low line of ASCII. -/
def isWordChar (c : Char) : Bool :=
  c.isAlphanum || c == '_'

def wordBefore (p : Place) : Bool :=
  p.before.any isWordChar

def wordAfter (p : Place) : Bool :=
  p.after.any isWordChar

end Place

/--
Conditions on a place.  Lines end with a line feed, or, for the conditions named so, with a carriage
return, a line feed, or the two in this order.  The words are those of ASCII, except for
`unicodeWord`, which stands for every condition on words in the wide sense: such a condition can be
written but is never tested, see `Regex.hasUnicodeWord`.
-/
inductive Condition where
  | start | stop
  | lineStart | lineEnd
  | crlfLineStart | crlfLineEnd
  | wordBoundary | noWordBoundary
  | wordStart | wordEnd
  | wordStartHalf | wordEndHalf
  | unicodeWord
deriving DecidableEq, Hashable, Repr

namespace Condition

/-- Whether a place satisfies the condition. -/
def holds (p : Place) : Condition → Bool
  | .start => p.before.isNone
  | .stop => p.after.isNone
  | .lineStart => p.before.isNone || p.before == some '\n'
  | .lineEnd => p.after.isNone || p.after == some '\n'
  | .crlfLineStart =>
      p.before.isNone || p.before == some '\n' ||
        (p.before == some '\r' && p.after != some '\n')
  | .crlfLineEnd =>
      p.after.isNone || p.after == some '\r' ||
        (p.after == some '\n' && p.before != some '\r')
  | .wordBoundary => p.wordBefore != p.wordAfter
  | .noWordBoundary => p.wordBefore == p.wordAfter
  | .wordStart => !p.wordBefore && p.wordAfter
  | .wordEnd => p.wordBefore && !p.wordAfter
  | .wordStartHalf => !p.wordBefore
  | .wordEndHalf => !p.wordAfter
  | .unicodeWord => false

end Condition

/-- The beginning of a set tells it from most others. -/
instance : Hashable CharSet where
  hash s := hash (s.intervals.take 2)

/-- Regular expressions. -/
inductive Regex where
  /-- matches the empty text -/
  | empty
  /-- matches one character of the set -/
  | char (set : CharSet)
  /-- matches the empty text at a place with the condition -/
  | condition (c : Condition)
  | seq (first second : Regex)
  | alt (left right : Regex)
  /-- at least `least` and at most `most` times, without a bound if there is no `most` -/
  | power (least : Nat) (most : Option Nat) (body : Regex)
deriving DecidableEq, Hashable, Repr

namespace Regex

/-- One after the other, without needless empty parts. -/
def andThen (first second : Regex) : Regex :=
  match first, second with
  | .empty, r => r
  | r, .empty => r
  | r, s => .seq r s

/-- Whether no match of the expression takes a character. -/
def takesNone : Regex → Bool
  | .empty => true
  | .char set => set.intervals.isEmpty
  | .condition _ => true
  | .seq r s => r.takesNone && s.takesNone
  | .alt r s => r.takesNone && s.takesNone
  | .power _ _ r => r.takesNone

/-- A repetition; no times leaves nothing of what is repeated, and of what takes no character one
time does as well as many. -/
def repeated (body : Regex) (least : Nat) (most : Option Nat) : Regex :=
  match most with
  | some 0 => .empty
  | _ => if body.takesNone then .power (min least 1) (some 1) body else .power least most body

/-- Whether the expression matches the empty text at a place. -/
def nullable (p : Place) : Regex → Bool
  | .empty => true
  | .char _ => false
  | .condition c => c.holds p
  | .seq r s => r.nullable p && s.nullable p
  | .alt r s => r.nullable p || s.nullable p
  | .power least _ r => least == 0 || r.nullable p

/-- Whether the expression matches the empty text at every place, whatever the conditions in it. -/
def vanishes : Regex → Bool
  | .empty => true
  | .char _ => false
  | .condition _ => false
  | .seq r s => r.vanishes && s.vanishes
  | .alt r s => r.vanishes || s.vanishes
  | .power least _ r => least == 0 || r.vanishes

/--
The counts that may be left after the first time that takes a character, when any number of times
before it may take none (`skips`).  Where what is repeated vanishes at every place, nothing is lost
without `skips`: a time that takes none can as well come last.
-/
def countsLeft (skips : Bool) (least : Nat) : Option Nat → List (Nat × Option Nat)
  | none =>
      if skips then (List.range (max least 1)).map fun i => (least - 1 - i, none)
      else [(least - 1, none)]
  | some most =>
      if skips then (List.range most).map fun i => (least - 1 - i, some (most - 1 - i))
      else if most = 0 then [] else [(least - 1, some (most - 1))]

/-- The expressions that may be left of one after the character that follows the place. -/
def derive (p : Place) (c : Char) : Regex → List Regex
  | .empty => []
  | .char set => if set.contains c then [.empty] else []
  | .condition _ => []
  | .seq r s =>
      let left := (r.derive p c).map fun r => r.andThen s
      if r.nullable p then left ++ s.derive p c else left
  | .alt r s => r.derive p c ++ s.derive p c
  | .power least most r =>
      match r.derive p c with
      | [] => []
      | left =>
          let skips := r.nullable p && !r.vanishes
          let rests := (countsLeft skips least most).map fun (least, most) =>
            r.repeated least most
          left.flatMap fun d => rests.map d.andThen

/-- Adds an expression to those kept, unless it is among those seen. -/
def keep (seen : Std.HashSet Regex × List Regex) (r : Regex) : Std.HashSet Regex × List Regex :=
  if seen.1.contains r then seen else (seen.1.insert r, r :: seen.2)

/-- The expressions of a list, each of them once. -/
def distinct (states : List Regex) : List Regex :=
  match states with
  | [] => []
  | [r] => [r]
  | states => (states.foldl keep (∅, [])).2

/-- All that is kept is also seen. -/
theorem contains_keep
    (seen : Std.HashSet Regex × List Regex) (r s : Regex)
    (h : ∀ x, seen.1.contains x = true ↔ x ∈ seen.2) :
    (keep seen r).1.contains s = true ↔ s ∈ (keep seen r).2 := by
  unfold keep
  split
  · exact h s
  · rw [Std.HashSet.contains_insert, Bool.or_eq_true, beq_iff_eq, h s, List.mem_cons]
    exact or_congr_left eq_comm

theorem mem_keep
    (seen : Std.HashSet Regex × List Regex) (r s : Regex)
    (h : ∀ x, seen.1.contains x = true ↔ x ∈ seen.2) :
    s ∈ (keep seen r).2 ↔ s = r ∨ s ∈ seen.2 := by
  unfold keep
  split
  · rename_i hr
    constructor
    · exact Or.inr
    · rintro (rfl | hs)
      · exact (h s).1 hr
      · exact hs
  · exact List.mem_cons

theorem mem_foldl_keep
    (states : List Regex) (seen : Std.HashSet Regex × List Regex) (s : Regex)
    (h : ∀ x, seen.1.contains x = true ↔ x ∈ seen.2) :
    s ∈ (states.foldl keep seen).2 ↔ s ∈ states ∨ s ∈ seen.2 := by
  induction states generalizing seen with
  | nil => simp
  | cons r states ih =>
      rw [List.foldl_cons, ih (keep seen r) (fun x => contains_keep seen r x h),
        mem_keep seen r s h, List.mem_cons, or_left_comm, or_assoc]

@[simp] theorem mem_distinct
    (states : List Regex) (s : Regex) :
    s ∈ distinct states ↔ s ∈ states := by
  match states with
  | [] => simp [distinct]
  | [r] => simp [distinct]
  | r :: t :: states =>
      have h := mem_foldl_keep (r :: t :: states) (∅, []) s (by simp)
      simpa [distinct] using h

/-- Reads on with the expressions that are left.  `read` characters are behind, the last of them
`before`, and `best` is the length of the longest match so far. -/
def longestFrom (states : List Regex) (before : Option Char) (read : Nat) (best : Option Nat) :
    List Char → Option Nat
  | [] =>
      if states.any (nullable { before := before, after := none }) then some read else best
  | c :: rest =>
      let p : Place := { before := before, after := some c }
      let best := if states.any (nullable p) then some read else best
      match distinct (states.flatMap (derive p c)) with
      | [] => best
      | states => longestFrom states (some c) (read + 1) best rest

/-- The number of characters in the longest beginning of the text that the expression matches. -/
def longest? (r : Regex) (text : List Char) : Option Nat :=
  longestFrom [r] none 0 none text

/-- Whether a condition on words in the wide sense occurs. -/
def hasUnicodeWord : Regex → Bool
  | .condition c => c == .unicodeWord
  | .seq r s => r.hasUnicodeWord || s.hasUnicodeWord
  | .alt r s => r.hasUnicodeWord || s.hasUnicodeWord
  | .power _ _ r => r.hasUnicodeWord
  | _ => false

end Regex
end PredictiveParsing

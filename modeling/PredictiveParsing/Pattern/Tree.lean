import PredictiveParsing.CharSet.Property

/-!
# Pattern trees

The form of a pattern as it is written: repetitions, groups, classes and flags, before any flag has
taken effect.  `Tree.depth` counts how deep the parts of a pattern are nested, of which a reader
allows no more than `Tree.maxDepth`.
-/

namespace PredictiveParsing
namespace Pattern

/-- A literal character; `isByte` marks one written by two hexadecimal digits. -/
structure Literal where
  char : Char
  isByte : Bool := false
deriving DecidableEq, Repr

/-- Conditions on a place in the input. -/
inductive Assertion where
  | lineStart | lineEnd
  | textStart | textEnd
  | wordBoundary | noWordBoundary
  | wordStart | wordEnd
  | wordStartHalf | wordEndHalf
deriving DecidableEq, Repr

/-- The classes with a letter of their own: digits, white space, characters of words. -/
inductive ShortClass where
  | digit | space | word
deriving DecidableEq, Repr

/-- Operations on two classes. -/
inductive ClassOperation where
  | intersection | difference | symmetricDifference
deriving DecidableEq, Repr

/-- What stands between square brackets. -/
inductive ClassTree where
  | literal (l : Literal)
  | range (first last : Literal)
  | listed (negated : Bool) (chars : CharSet)
  | property (negated : Bool) (query : CharSet.Query)
  | short (negated : Bool) (kind : ShortClass)
  | bracketed (negated : Bool) (body : ClassTree)
  | union (items : List ClassTree)
  | combine (operation : ClassOperation) (left right : ClassTree)
deriving Repr

/-- The flags of a group. -/
inductive Flag where
  | ignoreCase | multiLine | dotMatchesNewLine | swapGreed | unicode | crlf | ignoreBlanks
deriving DecidableEq, Repr

/-- Flags that a group sets or clears. -/
abbrev FlagChange := List (Flag × Bool)

/-- What the change says about a flag, if anything. -/
def FlagChange.value? (change : FlagChange) (flag : Flag) : Option Bool :=
  (change.find? fun entry => entry.1 = flag).map Prod.snd

/-- A pattern. -/
inductive Tree where
  | empty
  | literal (l : Literal)
  | dot
  | assertion (a : Assertion)
  | property (negated : Bool) (query : CharSet.Query)
  | short (negated : Bool) (kind : ShortClass)
  | bracketed (negated : Bool) (body : ClassTree)
  | flags (change : FlagChange)
  | group (change : FlagChange) (body : Tree)
  | repetition (body : Tree) (least : Nat) (most : Option Nat)
  | concat (parts : List Tree)
  | alternation (branches : List Tree)
deriving Repr

/-- Several class items as one. -/
def ClassTree.ofItems : List ClassTree → ClassTree
  | [item] => item
  | items => .union items

/-- Several parts, one after the other, as one tree. -/
def Tree.ofParts : List Tree → Tree
  | [] => .empty
  | [part] => part
  | parts => .concat parts

/-- Several branches as one tree. -/
def Tree.ofBranches : List Tree → Tree
  | [branch] => branch
  | branches => .alternation branches

mutual

/-- How deep the brackets, unions and operations of a class are nested. -/
def ClassTree.depth : ClassTree → Nat
  | .bracketed _ body => body.depth + 1
  | .union [] => 0
  | .union items => ClassTree.depthOfAll items + 1
  | .combine _ left right => max left.depth right.depth + 1
  | _ => 0

def ClassTree.depthOfAll : List ClassTree → Nat
  | [] => 0
  | item :: items => max item.depth (ClassTree.depthOfAll items)

end

mutual

/-- How deep the groups, repetitions, classes, sequences and branches of a pattern are nested. -/
def Tree.depth : Tree → Nat
  | .bracketed _ body => body.depth + 1
  | .group _ body => body.depth + 1
  | .repetition body _ _ => body.depth + 1
  | .concat parts => Tree.depthOfAll parts + 1
  | .alternation branches => Tree.depthOfAll branches + 1
  | _ => 0

def Tree.depthOfAll : List Tree → Nat
  | [] => 0
  | tree :: trees => max tree.depth (Tree.depthOfAll trees)

end

/-- The deepest nesting that a pattern may have. -/
def Tree.maxDepth : Nat :=
  250

end Pattern
end PredictiveParsing

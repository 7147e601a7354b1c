import PredictiveParsing.CharSet.Folding
import PredictiveParsing.Pattern.Reading
import PredictiveParsing.Pattern.Regex

/-!
# What patterns mean

`Pattern.compile` gives the regular expression of a pattern.  Flags act on all that follows them in
their group, also in later branches.  Without the flag `unicode`, classes and the signs for words
know ASCII only, and whatever could match half a character of UTF-8 is refused.
-/

namespace PredictiveParsing

/-- Why a text gives no regular expression. -/
inductive PatternError where
  /-- the text is no pattern -/
  | malformed
  /-- the pattern tests for words in the wide sense, which longest matching does not do -/
  | unicodeWordBoundary
deriving DecidableEq, Repr

namespace PatternError

def message : PatternError → String
  | .malformed => "error building NFA"
  | .unicodeWordBoundary =>
      "unsupported regex feature for DFAs: cannot build DFAs for regexes with Unicode " ++
        "word boundaries; switch to ASCII word boundaries, or heuristically enable Unicode " ++
        "word boundaries or use a different regex engine"

end PatternError

namespace Pattern

/-- The flags in force at some part of a pattern. -/
structure Flags where
  ignoreCase : Bool := false
  multiLine : Bool := false
  dotMatchesNewLine : Bool := false
  unicode : Bool := true
  crlf : Bool := false
deriving DecidableEq, Repr

namespace Flags

def set (flags : Flags) : Flag × Bool → Flags
  | (.ignoreCase, on) => { flags with ignoreCase := on }
  | (.multiLine, on) => { flags with multiLine := on }
  | (.dotMatchesNewLine, on) => { flags with dotMatchesNewLine := on }
  | (.unicode, on) => { flags with unicode := on }
  | (.crlf, on) => { flags with crlf := on }
  | (.swapGreed, _) => flags
  | (.ignoreBlanks, _) => flags

def change (flags : Flags) (change : FlagChange) : Flags :=
  change.foldl set flags

/-- The set, with all cases of its members where case is ignored. -/
def fold (flags : Flags) (s : CharSet) : CharSet :=
  if !flags.ignoreCase then s
  else if flags.unicode then s.foldCase
  else s.foldAsciiCase

/-- The set, if it may stand under these flags. -/
def admit? (flags : Flags) (s : CharSet) : Option CharSet :=
  if flags.unicode || s.isAscii then some s else none

/-- The set or its complement, cases first. -/
def foldAndNegate? (flags : Flags) (negated : Bool) (s : CharSet) : Option CharSet :=
  let folded := flags.fold s
  flags.admit? (if negated then folded.compl else folded)

end Flags

/-- A literal, if it may stand under these flags. -/
def Literal.char? (flags : Flags) (l : Literal) : Option Char :=
  if !flags.unicode && l.isByte && l.char.toNat > 0x7f then none else some l.char

/-- The characters of a class with a letter of its own. -/
def ShortClass.chars (flags : Flags) : ShortClass → CharSet
  | .digit => if flags.unicode then CharSet.Category.decimalNumber else .ofHex "30-39"
  | .space => if flags.unicode then CharSet.whiteSpace else .ofHex "9-d 20"
  | .word => if flags.unicode then CharSet.word else .ofHex "30-39 41-5a 5f 61-7a"

def ShortClass.chars? (flags : Flags) (negated : Bool) (kind : ShortClass) : Option CharSet :=
  flags.admit? (if negated then (kind.chars flags).compl else kind.chars flags)

/-- The characters with a property; properties are known to Unicode only. -/
def propertyChars? (flags : Flags) (negated : Bool) (query : CharSet.Query) :
    Option CharSet := do
  let chars ← CharSet.property? query
  if flags.unicode then flags.foldAndNegate? negated chars else none

/-- One end of a range in a class. -/
def Literal.classChar? (flags : Flags) (l : Literal) : Option Char := do
  let c ← l.char? flags
  if flags.unicode || c.toNat ≤ 0x7f then return c else none

def ClassOperation.apply : ClassOperation → CharSet → CharSet → CharSet
  | .intersection => CharSet.inter
  | .difference => CharSet.diff
  | .symmetricDifference => CharSet.symmDiff

mutual

/-- The characters of a class item. -/
def ClassTree.chars? (flags : Flags) : ClassTree → Option CharSet
  | .literal l => (l.classChar? flags).map CharSet.singleton
  | .range first last => do
      return .range (← first.classChar? flags) (← last.classChar? flags)
  | .listed negated chars => flags.foldAndNegate? negated chars
  | .property negated query => propertyChars? flags negated query
  | .short negated kind => kind.chars? flags negated
  | .bracketed negated body => do
      flags.foldAndNegate? negated (← body.chars? flags)
  | .union items => do return .unions (← ClassTree.allChars? flags items)
  | .combine operation left right => do
      let left ← left.chars? flags
      let right ← right.chars? flags
      return operation.apply (flags.fold left) (flags.fold right)

/-- The characters of each of several class items. -/
def ClassTree.allChars? (flags : Flags) : List ClassTree → Option (List CharSet)
  | [] => some []
  | item :: items => do
      return (← item.chars? flags) :: (← ClassTree.allChars? flags items)

end

/-- The condition that an assertion puts on a place. -/
def Assertion.condition (flags : Flags) : Assertion → Condition
  | .lineStart =>
      if !flags.multiLine then .start else if flags.crlf then .crlfLineStart else .lineStart
  | .lineEnd =>
      if !flags.multiLine then .stop else if flags.crlf then .crlfLineEnd else .lineEnd
  | .textStart => .start
  | .textEnd => .stop
  | .wordBoundary => if flags.unicode then .unicodeWord else .wordBoundary
  | .noWordBoundary => if flags.unicode then .unicodeWord else .noWordBoundary
  | .wordStart => if flags.unicode then .unicodeWord else .wordStart
  | .wordEnd => if flags.unicode then .unicodeWord else .wordEnd
  | .wordStartHalf => if flags.unicode then .unicodeWord else .wordStartHalf
  | .wordEndHalf => if flags.unicode then .unicodeWord else .wordEndHalf

/-- What the dot matches: no line ends unless told so. -/
def dotChars (flags : Flags) : CharSet :=
  if flags.dotMatchesNewLine then .all
  else if flags.crlf then (CharSet.ofHex "a d").compl
  else (CharSet.ofHex "a").compl

mutual

/-- The expression of a tree, with the flags that it leaves in force. -/
def Tree.regex? (flags : Flags) : Tree → Option (Flags × Regex)
  | .empty => some (flags, .empty)
  | .literal l => do
      let c ← l.char? flags
      return (flags, .char (flags.fold (CharSet.singleton c)))
  | .dot => if flags.unicode then some (flags, .char (dotChars flags)) else none
  | .assertion a => some (flags, .condition (a.condition flags))
  | .property negated query => do
      return (flags, .char (← propertyChars? flags negated query))
  | .short negated kind => do return (flags, .char (← kind.chars? flags negated))
  | .bracketed negated body => do
      return (flags, .char (← flags.foldAndNegate? negated (← body.chars? flags)))
  | .flags change => some (flags.change change, .empty)
  | .group change body => do
      let (_, r) ← body.regex? (flags.change change)
      return (flags, r)
  | .repetition body least most => do
      let (flags, r) ← body.regex? flags
      return (flags, r.repeated least most)
  | .concat parts => Tree.concatRegex? flags parts
  | .alternation branches => Tree.alternationRegex? flags branches

/-- The expression of several trees, one after the other. -/
def Tree.concatRegex? (flags : Flags) : List Tree → Option (Flags × Regex)
  | [] => some (flags, .empty)
  | part :: parts => do
      let (flags, r) ← part.regex? flags
      let (flags, s) ← Tree.concatRegex? flags parts
      return (flags, r.andThen s)

/-- The expression of several branches. -/
def Tree.alternationRegex? (flags : Flags) : List Tree → Option (Flags × Regex)
  | [] => some (flags, .char .empty)
  | branch :: branches => do
      let (flags, r) ← branch.regex? flags
      let (flags, s) ← Tree.alternationRegex? flags branches
      return (flags, .alt r s)

end

/-- The regular expression of a pattern. -/
def compile (text : String) : Except PatternError Regex :=
  match (Tree.read? text.toList).bind (Tree.regex? {}) with
  | none => .error .malformed
  | some (_, r) => if r.hasUnicodeWord then .error .unicodeWordBoundary else .ok r

end Pattern
end PredictiveParsing

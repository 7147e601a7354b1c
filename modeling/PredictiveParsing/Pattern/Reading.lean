import PredictiveParsing.CharSet.Recent
import PredictiveParsing.Pattern.Tree
import PredictiveParsing.Text.Basic

/-!
# Reading patterns

`Tree.read?` turns the text of a pattern into a tree, and gives nothing for a text that is no
pattern: an unclosed group or class, a repetition of nothing, counts in the wrong order, an unknown
escape, flag or class name.  Names of properties are not looked up here.

Every reader takes the rest of the text and returns what it leaves of it.  The first argument of
most tells whether blanks and comments are skipped, as inside `(?x)`.
-/

namespace PredictiveParsing
namespace Pattern

open Text

/-- The text after leading blanks and comments; `inComment` says where the text begins. -/
def skipFrom (inComment : Bool) : List Char → List Char
  | [] => []
  | c :: rest =>
      if inComment then skipFrom (c != '\n') rest
      else if isBlank c then skipFrom false rest
      else if c = '#' then skipFrom true rest
      else c :: rest

/-- The text after what may be skipped. -/
def skip (ignoreBlanks : Bool) (text : List Char) : List Char :=
  if ignoreBlanks then skipFrom false text else text

/-- The first character to come, blanks not counted, nor the sign that begins a comment. -/
def peek? (ignoreBlanks : Bool) (text : List Char) : Option Char :=
  if ignoreBlanks then
    match dropBlanks text with
    | '#' :: rest => (dropBlanks rest).head?
    | rest => rest.head?
  else text.head?

/-- At most `count` characters that satisfy `p`, with what may be skipped after each. -/
def collectUpTo (ignoreBlanks : Bool) (p : Char → Bool) :
    Nat → List Char → List Char × List Char
  | count + 1, c :: rest =>
      if p c then
        let (found, left) := collectUpTo ignoreBlanks p count (skip ignoreBlanks rest)
        (c :: found, left)
      else ([], c :: rest)
  | _, text => ([], text)

/-- The longest run of characters that satisfy `p`, with what may be skipped after each. -/
def collect (ignoreBlanks : Bool) (p : Char → Bool) (text : List Char) :
    List Char × List Char :=
  collectUpTo ignoreBlanks p text.length text

/-! ### Numbers and characters -/

/-- Numbers in counts have no more than 32 bits. -/
def maxCount : Nat :=
  0xffffffff

def decimalValue (digits : List Char) : Nat :=
  digits.foldl (fun n c => 10 * n + (c.toNat - '0'.toNat)) 0

/-- A decimal number; blanks may stand around it everywhere. -/
def decimal (ignoreBlanks : Bool) (text : List Char) : Option Nat × List Char :=
  let (digits, rest) := collect ignoreBlanks Char.isDigit (dropBlanks text)
  let (_, rest) := collect ignoreBlanks isBlank rest
  let value := decimalValue digits
  (if digits.isEmpty || value > maxCount then none else some value, rest)

/-- The character with this code, if the code is one of a character. -/
def charOfCode? (code : Nat) : Option Char :=
  if code.isValidChar then some (Char.ofNat code) else none

def isHexDigit (c : Char) : Bool :=
  (CharSet.hexDigit? c).isSome

/-- A character by its code: between braces, or in exactly `width` hexadecimal digits. -/
def hexEscape (ignoreBlanks : Bool) (width : Nat) (text : List Char) :
    Option (Literal × List Char) :=
  match skip ignoreBlanks text with
  | '{' :: rest =>
      match collect ignoreBlanks isHexDigit (skip ignoreBlanks rest) with
      | ([], _) => none
      | (digits, '}' :: rest) =>
          (charOfCode? (CharSet.hexValue digits)).map fun c =>
            ({ char := c }, skip ignoreBlanks rest)
      | _ => none
  | rest =>
      let (digits, rest) := collectUpTo ignoreBlanks isHexDigit width rest
      if digits.length = width then
        (charOfCode? (CharSet.hexValue digits)).map fun c =>
          ({ char := c, isByte := width = 2 }, rest)
      else none

/-! ### Escapes -/

/-- Splits a text before and after the first place where `sep` stands. -/
def splitAt? (sep : List Char) : List Char → Option (List Char × List Char)
  | [] => (dropStart? sep []).map fun rest => ([], rest)
  | c :: text =>
      match dropStart? sep (c :: text) with
      | some rest => some ([], rest)
      | none => (splitAt? sep text).map fun (start, rest) => (c :: start, rest)

/-- What is asked for between the braces of `\p{..}`.  The sign `!=` asks for all characters whose
property has another value. -/
def propertyQuery (text : List Char) : Bool × CharSet.Query :=
  match splitAt? ['!', '='] text, splitAt? [':'] text <|> splitAt? ['='] text with
  | some (property, value), _ => (true, .valued property value)
  | none, some (property, value) => (false, .valued property value)
  | none, none => (false, .named text)

/-- A property by name, after the letter of its escape, and whether its complement is asked for. -/
def propertyEscape (ignoreBlanks : Bool) (text : List Char) :
    Option ((Bool × CharSet.Query) × List Char) :=
  match skip ignoreBlanks text with
  | [] => none
  | '{' :: rest =>
      match collect ignoreBlanks (· != '}') (skip ignoreBlanks rest) with
      | (name, _ :: rest) => some (propertyQuery name, rest)
      | (_, []) => none
  | '\\' :: _ => none
  | c :: rest => some ((false, .named [c]), skip ignoreBlanks rest)

/-- The words that may follow `\b` between braces. -/
def boundaryNamed? (name : List Char) : Option Assertion :=
  match String.ofList name with
  | "start" => some .wordStart
  | "end" => some .wordEnd
  | "start-half" => some .wordStartHalf
  | "end-half" => some .wordEndHalf
  | _ => none

/-- What follows `\b`: braces with a letter or a hyphen in them say which boundary is meant, other
braces are a count and stay. -/
def boundaryEscape (ignoreBlanks : Bool) (text : List Char) :
    Option (Assertion × List Char) :=
  let isNameChar (c : Char) : Bool := c.isAlpha || c == '-'
  match text with
  | '{' :: rest =>
      match collect ignoreBlanks isNameChar (skip ignoreBlanks rest) with
      | ([], []) => none
      | ([], _) => some (.wordBoundary, text)
      | (name, '}' :: rest) => (boundaryNamed? name).map fun a => (a, rest)
      | _ => none
  | _ => some (.wordBoundary, text)

/-- Whether a backslash before the character gives the character itself. -/
def isPlainEscape (c : Char) : Bool :=
  c.toNat ≤ 0x7f && !c.isAlphanum && c != '<' && c != '>'

/-- An escape, after its backslash. -/
def escape (ignoreBlanks : Bool) : List Char → Option (Tree × List Char)
  | [] => none
  | c :: rest =>
      let literal (d : Char) := some (Tree.literal { char := d }, rest)
      let hex (width : Nat) :=
        (hexEscape ignoreBlanks width rest).map fun (l, rest) => (Tree.literal l, rest)
      let property (negated : Bool) :=
        (propertyEscape ignoreBlanks rest).map fun ((differs, query), rest) =>
          (Tree.property (negated != differs) query, rest)
      match c with
      | 'x' => hex 2
      | 'u' => hex 4
      | 'U' => hex 8
      | 'p' => property false
      | 'P' => property true
      | 'd' => some (.short false .digit, rest)
      | 's' => some (.short false .space, rest)
      | 'w' => some (.short false .word, rest)
      | 'D' => some (.short true .digit, rest)
      | 'S' => some (.short true .space, rest)
      | 'W' => some (.short true .word, rest)
      | 'a' => literal '\x07'
      | 'f' => literal '\x0c'
      | 't' => literal '\t'
      | 'n' => literal '\n'
      | 'r' => literal '\r'
      | 'v' => literal '\x0b'
      | 'A' => some (.assertion .textStart, rest)
      | 'z' => some (.assertion .textEnd, rest)
      | 'b' => (boundaryEscape ignoreBlanks rest).map fun (a, rest) => (.assertion a, rest)
      | 'B' => some (.assertion .noWordBoundary, rest)
      | '<' => some (.assertion .wordStart, rest)
      | '>' => some (.assertion .wordEnd, rest)
      | _ => if isPlainEscape c then literal c else none

/-! ### Classes -/

/-- The classes that have a name between colons. -/
def posixClass? (name : List Char) : Option CharSet :=
  match String.ofList name with
  | "alnum" => some (.ofHex "30-39 41-5a 61-7a")
  | "alpha" => some (.ofHex "41-5a 61-7a")
  | "ascii" => some .ascii
  | "blank" => some (.ofHex "9 20")
  | "cntrl" => some (.ofHex "0-1f 7f")
  | "digit" => some (.ofHex "30-39")
  | "graph" => some (.ofHex "21-7e")
  | "lower" => some (.ofHex "61-7a")
  | "print" => some (.ofHex "20-7e")
  | "punct" => some (.ofHex "21-2f 3a-40 5b-60 7b-7e")
  | "space" => some (.ofHex "9-d 20")
  | "upper" => some (.ofHex "41-5a")
  | "word" => some (.ofHex "30-39 41-5a 5f 61-7a")
  | "xdigit" => some (.ofHex "30-39 41-46 61-66")
  | _ => none

/-- A class such as `[:alpha:]` or `[:^alpha:]`, after its bracket. -/
def posixItem? (text : List Char) : Option (ClassTree × List Char) :=
  match text with
  | ':' :: rest =>
      let (negated, rest) :=
        match rest with
        | '^' :: rest => (true, rest)
        | rest => (false, rest)
      match dropStart? [':', ']'] (rest.dropWhile (· != ':')) with
      | some left =>
          (posixClass? (rest.takeWhile (· != ':'))).map fun chars =>
            (.listed negated chars, left)
      | none => none
  | _ => none

/-- What an escape stands for inside a class. -/
def classItemOf? : Tree → Option ClassTree
  | .literal l => some (.literal l)
  | .short negated kind => some (.short negated kind)
  | .property negated query => some (.property negated query)
  | _ => none

/-- One end of a range. -/
def literalOf? : Tree → Option Literal
  | .literal l => some l
  | _ => none

/-- A character or an escape inside a class. -/
def classAtom (ignoreBlanks : Bool) : List Char → Option (Tree × List Char)
  | [] => none
  | '\\' :: rest => escape ignoreBlanks rest
  | c :: rest => some (.literal { char := c }, rest)

/-- A character, an escape or a range inside a class.  A hyphen before a bracket or a hyphen begins
no range. -/
def classItem (ignoreBlanks : Bool) (text : List Char) : Option (ClassTree × List Char) := do
  let (first, rest) ← classAtom ignoreBlanks text
  match skip ignoreBlanks rest with
  | [] => none
  | '-' :: rest =>
      let next := peek? ignoreBlanks rest
      if next = some ']' ∨ next = some '-' then
        return (← classItemOf? first, '-' :: rest)
      else
        let (last, rest) ← classAtom ignoreBlanks (skip ignoreBlanks rest)
        let first ← literalOf? first
        let last ← literalOf? last
        if first.char ≤ last.char then return (.range first last, rest) else none
  | rest => return (← classItemOf? first, rest)

/-- A class that is still open: its items, last first, and the operation that waits for them. -/
structure OpenClass where
  negated : Bool
  items : List ClassTree
  waiting : Option (ClassOperation × ClassTree)

namespace OpenClass

def add (c : OpenClass) (item : ClassTree) : OpenClass :=
  { c with items := item :: c.items }

/-- The class so far, all of it the right side of the operation that waits. -/
def body (c : OpenClass) : ClassTree :=
  let items := ClassTree.ofItems c.items.reverse
  match c.waiting with
  | some (operation, left) => .combine operation left items
  | none => items

/-- The class so far becomes the left side of an operation. -/
def operate (c : OpenClass) (operation : ClassOperation) : OpenClass :=
  { c with items := [], waiting := some (operation, c.body) }

end OpenClass

/-- The beginning of a class, after its bracket: a caret, then hyphens and a closing bracket that
stand for themselves. -/
def openClass (ignoreBlanks : Bool) (text : List Char) : Option (OpenClass × List Char) :=
  let text := skip ignoreBlanks text
  let (negated, text) :=
    match text with
    | '^' :: rest => (true, skip ignoreBlanks rest)
    | _ => (false, text)
  let (hyphens, text) := collect ignoreBlanks (· == '-') text
  let (bracket, text) :=
    match hyphens, text with
    | [], ']' :: rest => ([']'], skip ignoreBlanks rest)
    | _, _ => ([], text)
  let items := (hyphens ++ bracket).map fun c => ClassTree.literal { char := c }
  if text.isEmpty then none
  else some ({ negated := negated, items := items.reverse, waiting := none }, text)

/-- Reads on in the innermost of the open classes, until the outermost is closed. -/
def classFrom (ignoreBlanks : Bool) :
    Nat → OpenClass → List OpenClass → List Char → Option (Tree × List Char)
  | 0, _, _, _ => none
  | steps + 1, inner, outer, text => do
      match skip ignoreBlanks text with
      | [] => none
      | '[' :: rest =>
          match posixItem? rest with
          | some (item, rest) => classFrom ignoreBlanks steps (inner.add item) outer rest
          | none =>
              let (opened, rest) ← openClass ignoreBlanks rest
              classFrom ignoreBlanks steps opened (inner :: outer) rest
      | ']' :: rest =>
          match outer with
          | [] => return (.bracketed inner.negated inner.body, rest)
          | next :: outer =>
              let item := ClassTree.bracketed inner.negated inner.body
              classFrom ignoreBlanks steps (next.add item) outer rest
      | '&' :: '&' :: rest =>
          classFrom ignoreBlanks steps (inner.operate .intersection) outer rest
      | '-' :: '-' :: rest =>
          classFrom ignoreBlanks steps (inner.operate .difference) outer rest
      | '~' :: '~' :: rest =>
          classFrom ignoreBlanks steps (inner.operate .symmetricDifference) outer rest
      | text =>
          let (item, rest) ← classItem ignoreBlanks text
          classFrom ignoreBlanks steps (inner.add item) outer rest

/-- A class, after its bracket. -/
def readClass (ignoreBlanks : Bool) (text : List Char) : Option (Tree × List Char) := do
  let (opened, rest) ← openClass ignoreBlanks text
  classFrom ignoreBlanks (rest.length + 1) opened [] rest

/-! ### Groups -/

def flagOf? : Char → Option Flag
  | 'i' => some .ignoreCase
  | 'm' => some .multiLine
  | 's' => some .dotMatchesNewLine
  | 'U' => some .swapGreed
  | 'u' => some .unicode
  | 'R' => some .crlf
  | 'x' => some .ignoreBlanks
  | _ => none

/-- Flags, those after a hyphen to be cleared.  A flag stands once, and so does the hyphen, but not
at the end. -/
def flagChange (clears : Bool) : List Char → Option FlagChange
  | [] => some []
  | ['-'] => none
  | '-' :: rest => if clears then none else flagChange true rest
  | c :: rest => do
      let flag ← flagOf? c
      let change ← flagChange clears rest
      if (change.value? flag).isSome then none else return (flag, !clears) :: change

/-- The characters that the name of a group may begin with, other than the low line. -/
def nameStarts : CharSet :=
  CharSet.alphabetic.union CharSet.Recent.alphabetic

/-- The letters and numerals that may stand in the name of a group. -/
def nameLetters : CharSet :=
  CharSet.unions [nameStarts, CharSet.alphanumeric, CharSet.Recent.number]

/-- Whether a text can be the name of a group. -/
def isGroupName : List Char → Bool
  | [] => false
  | c :: rest =>
      (c == '_' || nameStarts.contains c) &&
        rest.all fun c =>
          c == '_' || c == '.' || c == '[' || c == ']' || nameLetters.contains c

/-- The beginning of a group, as it stands in the text. -/
inductive GroupStart where
  | plain
  | named (name : List Char)
  | flagged (change : FlagChange)
  | directive (change : FlagChange)

/-- The beginning of a group, after its parenthesis.  Conditions on what surrounds a place are not
known. -/
def groupStart (ignoreBlanks : Bool) (text : List Char) : Option (GroupStart × List Char) :=
  let text := skip ignoreBlanks text
  let named (text : List Char) : Option (GroupStart × List Char) :=
    let name := text.takeWhile (· != '>')
    match text.dropWhile (· != '>') with
    | [] => none
    | _ :: rest => if isGroupName name then some (.named name, rest) else none
  match text with
  | '?' :: '=' :: _ => none
  | '?' :: '!' :: _ => none
  | '?' :: '<' :: '=' :: _ => none
  | '?' :: '<' :: '!' :: _ => none
  | '?' :: 'P' :: '<' :: rest => named rest
  | '?' :: '<' :: rest => named rest
  | '?' :: rest => do
      let isEnd (c : Char) : Bool := c == ':' || c == ')'
      let letters := rest.takeWhile (!isEnd ·)
      let change ← flagChange false letters
      match rest.dropWhile (!isEnd ·) with
      | ':' :: rest => return (.flagged change, rest)
      | _ :: rest => if letters.isEmpty then none else return (.directive change, rest)
      | [] => none
  | rest => some (.plain, rest)

/-- A group that is still open, and how it was before: finished branches and parts, last first. -/
structure OpenGroup where
  branches : List Tree
  parts : List Tree
  change : FlagChange
  ignoredBlanks : Bool

/-- All that is read so far of a pattern. -/
structure Progress where
  outer : List OpenGroup
  branches : List Tree
  parts : List Tree
  ignoreBlanks : Bool
  names : List (List Char)

namespace Progress

def start : Progress where
  outer := []
  branches := []
  parts := []
  ignoreBlanks := false
  names := []

def add (p : Progress) (part : Tree) : Progress :=
  { p with parts := part :: p.parts }

/-- What the innermost open group holds. -/
def body (p : Progress) : Tree :=
  .ofBranches ((Tree.ofParts p.parts.reverse :: p.branches).reverse)

/-- The next branch of the innermost open group. -/
def branch (p : Progress) : Progress :=
  { p with branches := .ofParts p.parts.reverse :: p.branches, parts := [] }

def openGroup (p : Progress) (change : FlagChange) : Progress :=
  { p with
    outer :=
      { branches := p.branches, parts := p.parts, change := change,
        ignoredBlanks := p.ignoreBlanks } :: p.outer
    branches := []
    parts := []
    ignoreBlanks := (change.value? .ignoreBlanks).getD p.ignoreBlanks }

def closeGroup? (p : Progress) : Option Progress :=
  match p.outer with
  | [] => none
  | group :: outer =>
      some
        { p with
          outer := outer
          branches := group.branches
          parts := .group group.change p.body :: group.parts
          ignoreBlanks := group.ignoredBlanks }

/-- The last part repeated; flags cannot be. -/
def repeatLast? (p : Progress) (least : Nat) (most : Option Nat) : Option Progress :=
  match p.parts with
  | [] => none
  | .flags _ :: _ => none
  | part :: parts => some { p with parts := .repetition part least most :: parts }

def start? (p : Progress) (group : GroupStart) : Option Progress :=
  match group with
  | .plain => some (p.openGroup [])
  | .named name =>
      if p.names.contains name then none
      else some ({ p with names := name :: p.names }.openGroup [])
  | .flagged change => some (p.openGroup change)
  | .directive change =>
      some
        { p.add (.flags change) with
          ignoreBlanks := (change.value? .ignoreBlanks).getD p.ignoreBlanks }

end Progress

/-! ### Patterns -/

/-- The counts of a repetition, after its brace. -/
def counts (ignoreBlanks : Bool) (text : List Char) :
    Option ((Nat × Option Nat) × List Char) := do
  let close (least : Nat) (most : Option Nat) :
      List Char → Option ((Nat × Option Nat) × List Char)
    | '}' :: rest => some ((least, most), skip ignoreBlanks rest)
    | _ => none
  let (least, rest) := decimal ignoreBlanks (skip ignoreBlanks text)
  let least ← least
  match rest with
  | ',' :: rest =>
      match skip ignoreBlanks rest with
      | '}' :: rest => close least none ('}' :: rest)
      | rest =>
          let (most, rest) := decimal ignoreBlanks rest
          let most ← most
          if least ≤ most then close least (some most) rest else none
  | rest => close least (some least) rest

/-- The text after the sign that makes a repetition a lazy one. -/
def dropLazySign : List Char → List Char
  | '?' :: rest => rest
  | text => text

/-- Reads on, one item of a pattern at a time. -/
def readFrom : Nat → Progress → List Char → Option Tree
  | 0, _, _ => none
  | steps + 1, p, text => do
      match skip p.ignoreBlanks text with
      | [] => if p.outer.isEmpty then some p.body else none
      | '(' :: rest =>
          let (group, rest) ← groupStart p.ignoreBlanks rest
          readFrom steps (← p.start? group) rest
      | ')' :: rest => readFrom steps (← p.closeGroup?) rest
      | '|' :: rest => readFrom steps p.branch rest
      | '[' :: rest =>
          let (tree, rest) ← readClass p.ignoreBlanks rest
          readFrom steps (p.add tree) rest
      | '?' :: rest => readFrom steps (← p.repeatLast? 0 (some 1)) (dropLazySign rest)
      | '*' :: rest => readFrom steps (← p.repeatLast? 0 none) (dropLazySign rest)
      | '+' :: rest => readFrom steps (← p.repeatLast? 1 none) (dropLazySign rest)
      | '{' :: rest =>
          let ((least, most), rest) ← counts p.ignoreBlanks rest
          readFrom steps (← p.repeatLast? least most) (dropLazySign rest)
      | '\\' :: rest =>
          let (tree, rest) ← escape p.ignoreBlanks rest
          readFrom steps (p.add tree) rest
      | '.' :: rest => readFrom steps (p.add .dot) rest
      | '^' :: rest => readFrom steps (p.add (.assertion .lineStart)) rest
      | '$' :: rest => readFrom steps (p.add (.assertion .lineEnd)) rest
      | c :: rest => readFrom steps (p.add (.literal { char := c })) rest

/-- The tree of a pattern, if the text is a pattern.  Each item takes at least one character. -/
def Tree.read? (text : List Char) : Option Tree := do
  let tree ← readFrom (text.length + 1) .start text
  if tree.depth ≤ Tree.maxDepth then return tree else none

end Pattern
end PredictiveParsing

import PredictiveParsing.Text.Basic

/-!
# Lines of a grammar text

What a single line declares.  A symbol line declares a terminal with its pattern, a non-terminal,
the start symbol or the end marker; a rule line gives a non-terminal one right-hand side, with the
blanks removed from it.  Every line ends with a semicolon.
-/

namespace PredictiveParsing

open Text

/-- One declaration of a grammar text. -/
inductive Declaration where
  | terminal (name pattern : String)
  | nonterminal (name : String)
  | start (name : String)
  | endMarker (value : String)
  | rule (antecedent consequent : String)
deriving DecidableEq, Repr

namespace Declaration

/-- The characters that can begin a name. -/
def isNameStart (c : Char) : Bool :=
  c.isAlpha || c == '_' || c == '\''

/-- The characters that can go on in a name. -/
def isNameChar (c : Char) : Bool :=
  isNameStart c || c.isDigit

/-- A name at the beginning of a text, and the rest. -/
def name? : List Char → Option (List Char × List Char)
  | [] => none
  | c :: rest =>
      if isNameStart c then some (c :: rest.takeWhile isNameChar, rest.dropWhile isNameChar)
      else none

/-- The text after its leading blanks, of which there is at least one. -/
def afterBlanks? : List Char → Option (List Char)
  | [] => none
  | c :: rest => if isBlank c then some (dropBlanks rest) else none

/-- The text after a word and the blanks that follow it. -/
def afterWord? (word : String) (text : List Char) : Option (List Char) :=
  (dropStart? word.toList text).bind afterBlanks?

/-- Whether nothing but a semicolon is left. -/
def isClosed (text : List Char) : Bool :=
  match dropBlanks text with
  | ';' :: rest => allBlank rest
  | _ => false

/-- What stands before the semicolon that ends a text, if there is anything. -/
def closedValue? (text : List Char) : Option (List Char) :=
  match (dropEndBlanks text).reverse with
  | ';' :: c :: rest => some (dropEndBlanks (c :: rest).reverse)
  | _ => none

/-- The value of a text that is a name and a semicolon. -/
def closedName? (text : List Char) : Option String :=
  match name? text with
  | some (name, rest) => if isClosed rest then some (String.ofList name) else none
  | none => none

/-- Reads `terminal NAME PATTERN;`. -/
def terminalLine? (line : List Char) : Option Declaration := do
  let rest ← afterWord? "terminal" (dropBlanks line)
  let (name, rest) ← name? rest
  let pattern ← closedValue? (← afterBlanks? rest)
  return .terminal (String.ofList name) (String.ofList pattern)

/-- Reads `no terminal NAME;`. -/
def nonterminalLine? (line : List Char) : Option Declaration := do
  let rest ← afterWord? "no" (dropBlanks line)
  let rest ← afterWord? "terminal" rest
  return .nonterminal (← closedName? rest)

/-- Reads `start with NAME;`. -/
def startLine? (line : List Char) : Option Declaration := do
  let rest ← afterWord? "start" (dropBlanks line)
  let rest ← afterWord? "with" rest
  return .start (← closedName? rest)

/-- Reads `set EOL char VALUE;`. -/
def endMarkerLine? (line : List Char) : Option Declaration := do
  let rest ← afterWord? "set" (dropBlanks line)
  let rest ← afterWord? "EOL" rest
  let rest ← afterWord? "char" rest
  return .endMarker (String.ofList (← closedValue? rest))

/-- The declaration of a symbol line. -/
def ofSymbolLine? (line : List Char) : Option Declaration :=
  terminalLine? line <|> nonterminalLine? line <|> startLine? line <|> endMarkerLine? line

/-- The declaration of a rule line, `NAME -> BODY;`. -/
def ofRuleLine? (line : List Char) : Option Declaration := do
  let (name, rest) ← name? (dropBlanks line)
  let rest ← dropStart? "->".toList (dropBlanks rest)
  let body := rest.takeWhile (· != ';')
  match rest.dropWhile (· != ';') with
  | _ :: rest =>
      if allBlank rest then
        return .rule (String.ofList name) (String.ofList (body.filter (!isBlank ·)))
      else none
  | [] => none

end Declaration
end PredictiveParsing

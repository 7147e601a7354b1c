import PredictiveParsing.Fault

/-!
# Symbols

A symbol table numbers the terminals and the non-terminals of a grammar in the order of their
registration.  The first two entries are always there: the end marker, which may be renamed, and
`EPSILON`, which stands for the empty text.  A terminal carries the pattern of its tokens.
-/

namespace PredictiveParsing

/-- The number of a symbol in its table. -/
abbrev SymbolId := Nat

/-- The symbol with an index.  Numbers of symbols have 32 bits, and any more of the index are left
out. -/
def SymbolId.ofIndex (index : Nat) : SymbolId :=
  index % 0x100000000

/-- The symbol that closes every input. -/
def endMarker : SymbolId :=
  0

/-- The symbol for the empty text. -/
def epsilon : SymbolId :=
  1

def epsilonName : String :=
  "EPSILON"

/-- What a symbol is. -/
inductive SymbolKind where
  | terminal (pattern : String)
  | nonterminal
deriving DecidableEq, Repr

def SymbolKind.isTerminal : SymbolKind → Bool
  | .terminal _ => true
  | .nonterminal => false

structure Symbol where
  name : String
  kind : SymbolKind
deriving DecidableEq, Repr

/-- The symbols of a grammar; the number of a symbol is its place in the list. -/
structure SymbolTable where
  symbols : List Symbol
deriving DecidableEq, Repr

/-- The characters that mean something in a pattern. -/
def isPatternSign (c : Char) : Bool :=
  "\\.+*?()|[]\x7b\x7d^$#&-~".toList.contains c

/-- The pattern that matches a text as it stands. -/
def literalPattern (text : String) : String :=
  String.ofList (text.toList.flatMap fun c => if isPatternSign c then ['\\', c] else [c])

namespace SymbolTable

/-- The end marker of this name, a terminal that matches the name itself. -/
def endMarkerSymbol (name : String) : Symbol where
  name := name
  kind := .terminal (literalPattern name)

/-- The table before any registration. -/
def initial : SymbolTable where
  symbols := [endMarkerSymbol "$", { name := epsilonName, kind := .terminal epsilonName }]

def size (t : SymbolTable) : Nat :=
  t.symbols.length

def id? (t : SymbolTable) (name : String) : Option SymbolId :=
  t.symbols.findIdx? fun s => s.name == name

def contains (t : SymbolTable) (name : String) : Bool :=
  (t.id? name).isSome

def resolve (t : SymbolTable) (name : String) : Except Fault SymbolId :=
  match t.id? name with
  | some id => .ok id
  | none => .error (.unknownSymbol name)

/-- The name of a symbol; a number without a symbol has the empty name. -/
def name (t : SymbolTable) (id : SymbolId) : String :=
  match t.symbols[id]? with
  | some s => s.name
  | none => ""

def names (t : SymbolTable) (ids : List SymbolId) : List String :=
  ids.map t.name

def kind? (t : SymbolTable) (id : SymbolId) : Option SymbolKind :=
  t.symbols[id]?.map Symbol.kind

def isTerminal (t : SymbolTable) (id : SymbolId) : Bool :=
  (t.kind? id).any SymbolKind.isTerminal

def pattern? (t : SymbolTable) (id : SymbolId) : Option String :=
  match t.kind? id with
  | some (.terminal pattern) => some pattern
  | _ => none

/-- The pattern of the terminal of this name. -/
def patternOf (t : SymbolTable) (name : String) : Except Fault String := do
  let id ← t.resolve name
  match t.pattern? id with
  | some pattern => return pattern
  | none => throw (.notTerminal name)

/-- All numbers in use. -/
def ids (t : SymbolTable) : List SymbolId :=
  List.range t.size

def terminals (t : SymbolTable) : List SymbolId :=
  t.ids.filter t.isTerminal

def nonterminals (t : SymbolTable) : List SymbolId :=
  t.ids.filter (!t.isTerminal ·)

/-- Adds a symbol under a new name and gives its number. -/
def register (t : SymbolTable) (name : String) (kind : SymbolKind) :
    Except Fault (SymbolId × SymbolTable) :=
  if t.contains name then .error (.duplicateSymbol name)
  else .ok (t.size, { symbols := t.symbols ++ [{ name := name, kind := kind }] })

def registerTerminal (t : SymbolTable) (name pattern : String) :
    Except Fault (SymbolId × SymbolTable) :=
  t.register name (.terminal pattern)

def registerNonterminal (t : SymbolTable) (name : String) :
    Except Fault (SymbolId × SymbolTable) :=
  t.register name .nonterminal

/-- Renames the end marker. -/
def setEndMarker (t : SymbolTable) (value : String) : Except Fault SymbolTable :=
  if t.name endMarker = value then .ok t
  else if t.contains value then .error (.duplicateSymbol value)
  else .ok { symbols := t.symbols.set endMarker (endMarkerSymbol value) }

end SymbolTable
end PredictiveParsing

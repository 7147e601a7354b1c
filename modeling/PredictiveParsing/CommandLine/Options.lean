/-!
# Options

How the arguments of a command line are told apart.  An argument that begins with a hyphen and has
more to it gives options: one by its long name after two hyphens, with a value after an equals sign,
or several by their letters.  An option that takes a value and has none at hand takes what is left
of its own argument, or the next argument.  Two hyphens alone end the options.
-/

namespace PredictiveParsing
namespace CommandLine

/-- The options there are. -/
inductive Switch where
  | verbose | history | help
deriving DecidableEq, Repr

namespace Switch

/-- All options, in the order in which they are listed. -/
def all : List Switch :=
  [.verbose, .history, .help]

def letter : Switch → Char
  | .verbose => 'v'
  | .history => 'n'
  | .help => 'h'

def longName : Switch → String
  | .verbose => "verbose"
  | .history => "history"
  | .help => "help"

def takesValue : Switch → Bool
  | .history => true
  | _ => false

def ofLetter? (c : Char) : Option Switch :=
  all.find? fun s => s.letter == c

/-- The option of a name; a letter is a name too. -/
def ofName? (name : String) : Option Switch :=
  all.find? fun s => s.longName == name || String.singleton s.letter == name

end Switch

/-- What can be wrong with the options. -/
inductive OptionError where
  | valueMissing (name : String)
  | unknown (name : String)
  | repeated (name : String)
  | valueUnexpected (name : String)
deriving DecidableEq, Repr

def OptionError.message : OptionError → String
  | .valueMissing name => "Argument to option '" ++ name ++ "' missing"
  | .unknown name => "Unrecognized option: '" ++ name ++ "'"
  | .repeated name => "Option '" ++ name ++ "' given more than once"
  | .valueUnexpected name => "Option '" ++ name ++ "' does not take an argument"

/-- The arguments told apart: options with their values, and all others. -/
structure Arguments where
  given : List (Switch × Option String) := []
  free : List String := []
deriving DecidableEq, Repr

namespace Arguments

def addGiven (a : Arguments) (s : Switch) (value : Option String) : Arguments :=
  { a with given := a.given ++ [(s, value)] }

def addFree (a : Arguments) (args : List String) : Arguments :=
  { a with free := a.free ++ args }

def has (a : Arguments) (s : Switch) : Bool :=
  a.given.any fun g => g.1 == s

/-- The value of an option, if it has one. -/
def value? (a : Arguments) (s : Switch) : Option String :=
  (a.given.find? fun g => g.1 == s).bind Prod.snd

/-- Whether an argument gives options. -/
def isOption (arg : List Char) : Bool :=
  match arg with
  | '-' :: _ :: _ => true
  | _ => false

/-- What a group of letters gives: options without a value, and at most one that takes one, with
what is left of the group. -/
structure Letters where
  flags : List Switch := []
  last : Option (Switch × Option String) := none

/-- The options of a group of letters. -/
def letters : List Char → Except OptionError Letters
  | [] => .ok {}
  | c :: rest =>
      match Switch.ofLetter? c with
      | none => .error (.unknown (String.singleton c))
      | some s =>
          if s.takesValue then
            .ok { last := some (s, if rest.isEmpty then none else some (String.ofList rest)) }
          else
            match letters rest with
            | .ok l => .ok { l with flags := s :: l.flags }
            | .error e => .error e

/-- Enters an option that was written as `name`, with the value written with it.  Gives also the
arguments that are left. -/
def enter (a : Arguments) (name : String) (s : Switch) (value : Option String)
    (rest : List String) : Except OptionError (Arguments × List String) :=
  if s.takesValue then
    match value, rest with
    | some v, _ => .ok (a.addGiven s (some v), rest)
    | none, v :: rest => .ok (a.addGiven s (some v), rest)
    | none, [] => .error (.valueMissing name)
  else
    match value with
    | some _ => .error (.valueUnexpected name)
    | none => .ok (a.addGiven s none, rest)

/-- Enters the options of an argument, which stands before `rest`. -/
def enterOption (a : Arguments) (arg : List Char) (rest : List String) :
    Except OptionError (Arguments × List String) := do
  match arg with
  | '-' :: '-' :: long =>
      let name := String.ofList (long.takeWhile (· != '='))
      let value :=
        match long.dropWhile (· != '=') with
        | _ :: value => some (String.ofList value)
        | [] => none
      match Switch.ofName? name with
      | none => throw (.unknown name)
      | some s => a.enter name s value rest
  | _ =>
      let l ← letters (arg.drop 1)
      let a := l.flags.foldl (fun a s => a.addGiven s none) a
      match l.last with
      | none => return (a, rest)
      | some (s, value) => a.enter (String.singleton s.letter) s value rest

/-- Tells the arguments apart; each step takes at least one. -/
def readFrom : Nat → Arguments → List String → Except OptionError Arguments
  | _, a, [] => .ok a
  | 0, a, _ => .ok a
  | steps + 1, a, arg :: rest =>
      if !isOption arg.toList then readFrom steps (a.addFree [arg]) rest
      else if arg = "--" then .ok (a.addFree rest)
      else
        match a.enterOption arg.toList rest with
        | .error e => .error e
        | .ok (a, rest) => readFrom steps a rest

/-- The first option that is given more than once. -/
def repeated? (a : Arguments) : Option Switch :=
  Switch.all.find? fun s => (a.given.filter fun g => g.1 == s).length > 1

/-- Tells the arguments of a command line apart. -/
def read (args : List String) : Except OptionError Arguments := do
  let a ← readFrom args.length {} args
  match a.repeated? with
  | some s => throw (.repeated s.longName)
  | none => return a

end Arguments

/-- The number that an option gives, below two to the power of 64; a plus sign may precede it. -/
def count? (text : String) : Option Nat :=
  let digits :=
    match text.toList with
    | '+' :: digits => digits
    | digits => digits
  let value := digits.foldl (fun n c => 10 * n + (c.toNat - '0'.toNat)) 0
  if digits.isEmpty || !digits.all Char.isDigit || value > 0xffffffffffffffff then none
  else some value

end CommandLine
end PredictiveParsing

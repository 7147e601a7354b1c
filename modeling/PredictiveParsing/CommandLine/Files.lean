/-!
# Files

Texts by their paths.  A `FileTree` keeps files and directories in memory and finds them as a file
system does: step by step along a path, where a dot stays, two dots go up, and nothing can be found
below a file.  Paths and the names in them have a longest length.
-/

namespace PredictiveParsing
namespace CommandLine

/-- Why a path cannot be read as a text. -/
inductive ReadError where
  | notFound
  | notDirectory
  | isDirectory
  | nameTooLong
  | notText
  /-- anything else, in the words of the system -/
  | system (message : String)
deriving DecidableEq, Repr

def ReadError.message : ReadError → String
  | .notFound => "No such file or directory (os error 2)"
  | .notDirectory => "Not a directory (os error 20)"
  | .isDirectory => "Is a directory (os error 21)"
  | .nameTooLong => "File name too long (os error 36)"
  | .notText => "stream did not contain valid UTF-8"
  | .system message => message

/-- A text that was read, and the full path of its file. -/
structure TextFile where
  path : String
  text : String
deriving DecidableEq, Repr

/-- The texts by their paths. -/
abbrev Files := String → Except ReadError TextFile

/-- Files and directories by the names on the way to them: the bytes of a file, or nothing for a
directory.  Of two entries for one way the later counts. -/
abbrev Entries := List (List String × Option ByteArray)

/-- Files and directories under one directory, and some that are known by their full paths. -/
structure FileTree where
  /-- the full path of the directory -/
  root : String
  /-- what stands under the directory -/
  entries : Entries
  /-- what stands elsewhere -/
  elsewhere : Entries := []

namespace FileTree

/-- What stands at the end of a way of names. -/
inductive Found where
  | file (bytes : ByteArray)
  | directory
  | nothing

/-- What stands at the end of a way of names.  There are directories on the way to every entry. -/
def find (entries : Entries) (way : List String) : Found :=
  match entries.reverse.find? fun e => e.1 == way with
  | some (_, some bytes) => .file bytes
  | some (_, none) => .directory
  | none =>
      if way.isEmpty || entries.any fun e => way.isPrefixOf e.1 then .directory else .nothing

/-- Where a way of names begins: so many directories above the directory of the tree, or at the top
of all directories. -/
inductive Base where
  | above (levels : Nat)
  | top
deriving DecidableEq, Repr

/-- The directory above. -/
def Base.up : Base → Base
  | .above levels => .above (levels + 1)
  | .top => .top

/-- A place that a path leads to. -/
structure Location where
  base : Base
  way : List String
deriving DecidableEq, Repr

/-- The place where a path begins. -/
def Location.start (path : String) : Location where
  base := if path.startsWith "/" then .top else .above 0
  way := []

/-- The next step of a path, from a directory. -/
def Location.next (l : Location) (name : String) : Location :=
  if name = "" ∨ name = "." then l
  else if name = ".." then
    if l.way.isEmpty then { l with base := l.base.up } else { l with way := l.way.dropLast }
  else { l with way := l.way ++ [name] }

/-- What stands at a location.  Above the directory of the tree only directories are known. -/
def at? (t : FileTree) (l : Location) : Found :=
  match l.base with
  | .above 0 => find t.entries l.way
  | .above _ => if l.way.isEmpty then .directory else .nothing
  | .top => find t.elsewhere l.way

/-- The full path of a location. -/
def fullPath (t : FileTree) (l : Location) : String :=
  match l.base with
  | .above _ => "/".intercalate (t.root :: l.way)
  | .top => "/" ++ "/".intercalate l.way

/-- The most bytes that a path may have. -/
def maxPathLength : Nat :=
  4095

/-- The most bytes that a name may have. -/
def maxNameLength : Nat :=
  255

/-- Goes along the names of a path. -/
def walk (t : FileTree) (l : Location) : List String → Except ReadError Location
  | [] => .ok l
  | name :: rest =>
      match t.at? l with
      | .file _ => .error .notDirectory
      | .nothing => .error .notFound
      | .directory =>
          if name.utf8ByteSize > maxNameLength then .error .nameTooLong
          else t.walk (l.next name) rest

/-- Reads a path as a text. -/
def read (t : FileTree) : Files := fun path => do
  if path.isEmpty then throw .notFound
  if path.utf8ByteSize > maxPathLength then throw .nameTooLong
  let l ← t.walk (.start path) (path.splitOn "/")
  match t.at? l with
  | .nothing => throw .notFound
  | .directory => throw .isDirectory
  | .file bytes =>
      match String.fromUTF8? bytes with
      | some text => return { path := t.fullPath l, text := text }
      | none => throw .notText

end FileTree
end CommandLine
end PredictiveParsing

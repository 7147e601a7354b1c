import PredictiveParsing.CharSet.Mark
import PredictiveParsing.CharSet.Recent

/-!
# Quoted text

Characters and texts between quotes, as messages show them.  Inside, the quote itself, the
backslash, tab, carriage return, line feed and the null character are written with a backslash, and
so, by its code point in hexadecimal, is every character that cannot be seen on its own.
-/

namespace PredictiveParsing
namespace Text

/-- Controls, format characters, separators other than the space, and what is not assigned. -/
def unprintable : CharSet :=
  (CharSet.unions
    [CharSet.Category.control, CharSet.Category.format, CharSet.Category.surrogate,
      CharSet.Category.privateUse, CharSet.Category.unassigned,
      CharSet.Category.separator]).diff (CharSet.Recent.assigned.union (CharSet.singleton ' '))

/-- Characters that join with the one before them, or are shown as nothing.  The two voicing marks
of half width, though they join, are shown like letters. -/
def notAlone : CharSet :=
  (CharSet.unions
    [CharSet.graphemeExtend, CharSet.Recent.graphemeExtend,
      CharSet.defaultIgnorable]).diff (CharSet.ofHex "ff9e-ff9f")

/-- The characters that are written by their code points. -/
def coded : CharSet :=
  unprintable.union notAlone

/-- One character inside the given quotes. -/
def escape (quote c : Char) : List Char :=
  if c = '\x00' then ['\\', '0']
  else if c = '\t' then ['\\', 't']
  else if c = '\r' then ['\\', 'r']
  else if c = '\n' then ['\\', 'n']
  else if c = '\\' ∨ c = quote then ['\\', c]
  else if coded.contains c then
    ['\\', 'u', '\x7b'] ++ Nat.toDigits 16 c.toNat ++ ['\x7d']
  else [c]

/-- A character between apostrophes. -/
def quoteChar (c : Char) : String :=
  String.ofList (['\''] ++ escape '\'' c ++ ['\''])

/-- A text between quotation marks. -/
def quote (text : String) : String :=
  String.ofList (['"'] ++ text.toList.flatMap (escape '"') ++ ['"'])

end Text
end PredictiveParsing

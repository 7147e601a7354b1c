/-!
# Texts

Texts as lists of characters: which characters are blank, what is left of a text without some of its
beginning or its end, and how many bytes it takes.
-/

namespace PredictiveParsing
namespace Text

/-- White space, in the sense of the Unicode property. -/
def isBlank (c : Char) : Bool :=
  let n := c.toNat
  (0x9 ≤ n && n ≤ 0xd) || n == 0x20 || n == 0x85 || n == 0xa0 || n == 0x1680 ||
    (0x2000 ≤ n && n ≤ 0x200a) || n == 0x2028 || n == 0x2029 || n == 0x202f ||
    n == 0x205f || n == 0x3000

/-- The text after its leading blanks. -/
def dropBlanks (cs : List Char) : List Char :=
  cs.dropWhile isBlank

/-- The text up to its last character that does not satisfy `p`. -/
def dropEndWhile (p : Char → Bool) (cs : List Char) : List Char :=
  (cs.reverse.dropWhile p).reverse

/-- The text before its trailing blanks. -/
def dropEndBlanks (cs : List Char) : List Char :=
  dropEndWhile isBlank cs

/-- The text between its outermost characters that are not blank. -/
def trim (cs : List Char) : List Char :=
  dropEndBlanks (dropBlanks cs)

/-- Whether a text holds nothing but blanks. -/
def allBlank (cs : List Char) : Bool :=
  cs.all isBlank

/-- What follows a given beginning of a text. -/
def dropStart? : List Char → List Char → Option (List Char)
  | [], text => some text
  | c :: start, d :: text => if c = d then dropStart? start text else none
  | _ :: _, [] => none

/-- The number of bytes a text takes in UTF-8. -/
def byteCount (cs : List Char) : Nat :=
  cs.foldr (fun c n => c.utf8Size + n) 0

@[simp] theorem byteCount_nil :
    byteCount [] = 0 := by
  rfl

@[simp] theorem byteCount_cons
    (c : Char) (cs : List Char) :
    byteCount (c :: cs) = c.utf8Size + byteCount cs := by
  rfl

@[simp] theorem byteCount_append
    (cs ds : List Char) :
    byteCount (cs ++ ds) = byteCount cs + byteCount ds := by
  induction cs with
  | nil => simp
  | cons c cs ih => simp [ih, Nat.add_assoc]

end Text
end PredictiveParsing

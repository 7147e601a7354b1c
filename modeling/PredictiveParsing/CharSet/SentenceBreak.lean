import PredictiveParsing.CharSet.WordBreak

/-!
# Breaks between sentences

The classes of characters that tell where a text may be cut between two sentences.
-/

namespace PredictiveParsing
namespace CharSet
namespace SentenceBreak

/-- The full stop and its forms, which also stand inside words and numbers. -/
def fullStop : CharSet :=
  .ofHex "2e 2024 fe52 ff0e"

/-- Other punctuation that ends a sentence. -/
def terminator : CharSet :=
  sentenceTerminal.diff fullStop

/-- Brackets and quotation marks, which may follow the end of a sentence. -/
def close : CharSet :=
  unions
    [Category.openPunctuation, Category.closePunctuation, Category.initialPunctuation,
      Category.finalPunctuation,
      .ofHex "22 27 275b-2760 2e00-2e01 2e06-2e08 2e0b 1f676-1f678"]

/-- Punctuation after which a sentence goes on. -/
def continuation : CharSet :=
  .ofHexLines
    ["2c-2d 3a-3b 37e 55d 60c-60d 7f8 1802 1808 2013-2014 3001 fe10-fe11 fe13-fe14 fe31-fe32",
     "fe50-fe51 fe54-fe55 fe58 fe63 ff0c-ff0d ff1a-ff1b ff64"]

/-- Characters that belong to the one before them. -/
def extend : CharSet :=
  unions [graphemeExtend, Category.spacingMark, .ofHex "200d"]

/-- Digits, and signs that join with them. -/
def numeric : CharSet :=
  unions [WordBreak.numeric, .ofHex "66c"]

/-- Format characters that sentences take no notice of. -/
def format : CharSet :=
  Category.format.diff (unions [numeric, .ofHex "200c-200d e0020-e007f"])

/-- Letters in lower case; those of Georgian count as without case. -/
def lower : CharSet :=
  lowercase.diff (unions [graphemeExtend, .ofHex "10d0-10fa 10fd-10ff"])

/-- Letters in upper case; those of Georgian count as without case. -/
def upper : CharSet :=
  (unions [uppercase, Category.titlecaseLetter]).diff (.ofHex "1c90-1cba 1cbd-1cbf")

/-- Letters without case. -/
def otherLetter : CharSet :=
  (unions [alphabetic, .ofHex "5f3"]).diff (unions [lower, upper, extend])

/-- Characters that end paragraphs, other than carriage return and line feed. -/
def separator : CharSet :=
  .ofHex "85 2028-2029"

/-- Spaces. -/
def space : CharSet :=
  unions [Category.spaceSeparator, .ofHex "9 b-c"]

/-- The classes by their names. -/
def named : List (List String × CharSet) :=
  [(["aterm", "at"], fullStop),
   (["close", "cl"], close),
   (["cr"], .singleton '\r'),
   (["extend", "ex"], extend),
   (["format", "fo"], format),
   (["lf"], .singleton '\n'),
   (["lower", "lo"], lower),
   (["numeric", "nu"], numeric),
   (["oletter", "le"], otherLetter),
   (["scontinue", "sc"], continuation),
   (["sep", "se"], separator),
   (["sp"], space),
   (["sterm", "st"], terminator),
   (["upper", "up"], upper)]

end SentenceBreak
end CharSet
end PredictiveParsing

import PredictiveParsing.CharSet.Emoji
import PredictiveParsing.CharSet.Letter
import PredictiveParsing.CharSet.Mark
import PredictiveParsing.CharSet.Script
import PredictiveParsing.CharSet.Sign

/-!
# Breaks between words

The classes of characters that tell where a text may be cut between two words.  A character in none
of the classes is a word of its own.
-/

namespace PredictiveParsing
namespace CharSet
namespace WordBreak

/-- Digits, and signs that join with them. -/
def numeric : CharSet :=
  unions [Category.decimalNumber, .ofHex "600-605 66b 6dd 890-891 8e2 19da 110bd 110cd"]

/-- Format characters that words take no notice of. -/
def format : CharSet :=
  Category.format.diff (unions [numeric, .ofHex "70f 200b-200d e0020-e007f"])

/-- Characters that belong to the one before them. -/
def extend : CharSet :=
  unions [graphemeExtend, Category.spacingMark, emojiModifier]

/-- Hebrew letters. -/
def hebrewLetter : CharSet :=
  (Script.chars "hebrew").inter Category.otherLetter

/-- Katakana, and signs that stand between them. -/
def katakana : CharSet :=
  (Script.chars "katakana").union (.ofHex "3031-3035 309b-309c 30a0 30fc ff70")

/-- Letters of scripts that are written without spaces between words. -/
def unspaced : CharSet :=
  .ofHexLines
    ["e01-e30 e32-e33 e40-e46 e81-e82 e84 e86-e8a e8c-ea3 ea5 ea7-eb0 eb2-eb3 ebd ec0-ec4 ec6",
     "edc-edf 1000-102a 103f 1050-1055 105a-105d 1061 1065-1066 106e-1070 1075-1081 108e",
     "1780-17b3 17d7 17dc 1950-196d 1970-1974 1980-19ab 19b0-19c9 1a20-1a54 1aa7 a9e0-a9e4",
     "a9e6-a9ef a9fa-a9fe aa60-aa76 aa7a aa7e-aaaf aab1 aab5-aab6 aab9-aabd aac0 aac2 aadb-aadd",
     "11700-1171a 11740-11746"]

/-- Letters of scripts that are written with spaces between words, and signs among them. -/
def letter : CharSet :=
  (alphabetic.diff
      (unions
        [ideographic, katakana, unspaced, Script.chars "hiragana", extend, hebrewLetter])).union
    (.ofHexLines
      ["b8 2c2-2c5 2d2-2d7 2de-2df 2e5-2eb 2ed 2ef-2ff 55a-55c 55e 58a 5f3 70f a708-a716",
       "a720-a721 a789-a78a ab5b"])

/-- Connectors of words and numbers. -/
def extendNumLet : CharSet :=
  .ofHex "5f 202f 203f-2040 2054 fe33-fe34 fe4d-fe4f ff3f"

/-- Characters that end lines, other than carriage return and line feed. -/
def newline : CharSet :=
  .ofHex "b-c 85 2028-2029"

/-- Spaces that stay together. -/
def segmentSpace : CharSet :=
  .ofHex "20 1680 2000-2006 2008-200a 205f 3000"

/-- The classes by their names. -/
def named : List (List String × CharSet) :=
  [(["aletter", "le"], letter),
   (["cr"], .singleton '\r'),
   (["doublequote", "dq"], .ofHex "22"),
   (["extend"], extend),
   (["extendnumlet", "ex"], extendNumLet),
   (["format", "fo"], format),
   (["hebrewletter", "hl"], hebrewLetter),
   (["katakana", "ka"], katakana),
   (["lf"], .singleton '\n'),
   (["midletter", "ml"], midLetter),
   (["midnum", "mn"], midNum),
   (["midnumlet", "mb"], midNumLet),
   (["newline", "nl"], newline),
   (["numeric", "nu"], numeric),
   (["regionalindicator", "ri"], regionalIndicator),
   (["singlequote", "sq"], singleQuote),
   (["wsegspace"], segmentSpace),
   (["zwj"], .ofHex "200d")]

end WordBreak
end CharSet
end PredictiveParsing

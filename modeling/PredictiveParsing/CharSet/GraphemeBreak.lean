import PredictiveParsing.CharSet.Emoji
import PredictiveParsing.CharSet.Mark

/-!
# Breaks between shown characters

The classes of characters that tell where a text may be cut between two shown characters.  A
character in none of the classes joins with nothing.
-/

namespace PredictiveParsing
namespace CharSet
namespace GraphemeBreak

/-- Signs that join with what follows them. -/
def prepend : CharSet :=
  unions
    [prependedConcatenationMark,
      .ofHex "d4e 111c2-111c3 113d1 1193f 11941 11a3a 11a84-11a89 11d46 11f02"]

/-- Characters around which a text is always cut. -/
def control : CharSet :=
  (unions
      [Category.control, Category.format, Category.lineSeparator, Category.paragraphSeparator,
        defaultIgnorable]).diff
    (unions [graphemeExtend, prependedConcatenationMark, .ofHex "a d 115f-1160 200d 3164 ffa0"])

/-- Characters that join with the one before them. -/
def extend : CharSet :=
  unions [graphemeExtend, emojiModifier]

/-- Marks with a width that join with the character before them. -/
def spacingMark : CharSet :=
  (unions [Category.spacingMark, .ofHex "e33 eb3"]).diff
    (unions
      [graphemeExtend,
        .ofHexLines
          ["102b-102c 1038 1062-1064 1067-106d 1083 1087-108c 108f 109a-109c 1a61 1a63-1a64 aa7b",
           "aa7d 11720-11721"]])

/-- Consonants that begin Hangul syllables. -/
def leadingConsonant : CharSet :=
  .ofHex "1100-115f a960-a97c"

/-- Vowels inside Hangul syllables. -/
def vowel : CharSet :=
  .ofHex "1160-11a7 d7b0-d7c6 16d63 16d67-16d6a"

/-- Consonants that end Hangul syllables. -/
def trailingConsonant : CharSet :=
  .ofHex "11a8-11ff d7cb-d7fb"

/-- Hangul syllables that end with their vowel: of each 28 syllables the first. -/
def openSyllable : CharSet :=
  ofIntervals ((List.range 399).map fun i => (0xac00 + 28 * i, 0xac00 + 28 * i))

/-- Hangul syllables that end with a consonant. -/
def closedSyllable : CharSet :=
  (ofHex "ac00-d7a3").diff openSyllable

/-- The classes by their names. -/
def named : List (List String × CharSet) :=
  [(["control", "cn"], control),
   (["cr"], .singleton '\r'),
   (["extend", "ex"], extend),
   (["l"], leadingConsonant),
   (["lf"], .singleton '\n'),
   (["lv"], openSyllable),
   (["lvt"], closedSyllable),
   (["prepend", "pp"], prepend),
   (["regionalindicator", "ri"], regionalIndicator),
   (["spacingmark", "sm"], spacingMark),
   (["t"], trailingConsonant),
   (["v"], vowel),
   (["zwj"], .ofHex "200d")]

end GraphemeBreak
end CharSet
end PredictiveParsing

import PredictiveParsing.CharSet.Sign

/-!
# Identifiers

The sets of characters that begin and continue the identifiers of formal languages.
-/

namespace PredictiveParsing
namespace CharSet

/-- Characters that begin identifiers though they are no letters. -/
def otherIdStart : CharSet :=
  .ofHex "1885-1886 2118 212e 309b-309c"

/-- Characters that begin identifiers. -/
def idStart : CharSet :=
  (unions [Category.letter, Category.letterNumber, otherIdStart]).diff
    (unions [patternSyntax, patternWhiteSpace])

/-- Characters that continue identifiers though no category says so. -/
def otherIdContinue : CharSet :=
  .ofHex "b7 387 1369-1371 19da 200c-200d 30fb ff65"

/-- Characters that continue identifiers. -/
def idContinue : CharSet :=
  (unions
      [idStart, Category.nonspacingMark, Category.spacingMark, Category.decimalNumber,
        Category.connectorPunctuation, otherIdContinue]).diff
    (unions [patternSyntax, patternWhiteSpace])

/-- Characters that begin identifiers, also after compatibility decomposition. -/
def xidStart : CharSet :=
  idStart.diff
    (.ofHexLines
      ["37a e33 eb3 309b-309c fc5e-fc63 fdfa-fdfb fe70 fe72 fe74 fe76 fe78 fe7a fe7c fe7e",
       "ff9e-ff9f"])

/-- Characters that continue identifiers, also after compatibility decomposition. -/
def xidContinue : CharSet :=
  idContinue.diff
    (.ofHex "37a 309b-309c fc5e-fc63 fdfa-fdfb fe70 fe72 fe74 fe76 fe78 fe7a fe7c fe7e")

/-- Signs of mathematics that may begin identifiers. -/
def idCompatMathStart : CharSet :=
  .ofHex "2202 2207 221e 1d6c1 1d6db 1d6fb 1d715 1d735 1d74f 1d76f 1d789 1d7a9 1d7c3"

/-- Signs of mathematics that may continue identifiers. -/
def idCompatMathContinue : CharSet :=
  unions [idCompatMathStart, .ofHex "b2-b3 b9 2070 2074-207e 2080-208e"]

end CharSet
end PredictiveParsing

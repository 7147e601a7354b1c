import PredictiveParsing.CharSet.Age
import PredictiveParsing.CharSet.GraphemeBreak
import PredictiveParsing.CharSet.Identifier
import PredictiveParsing.CharSet.Script.Extension
import PredictiveParsing.CharSet.SentenceBreak

/-!
# Properties of characters

`CharSet.property?` finds categories, scripts, ages, break classes and the properties that a
character has or has not, all by name, as a pattern writes them.
-/

namespace PredictiveParsing
namespace CharSet

/-- Characters of words: letters, marks, digits and connectors. -/
def word : CharSet :=
  unions
    [alphabetic, Category.mark, Category.decimalNumber, Category.connectorPunctuation,
      joinControl]

/-- The properties that a character has or has not, by their names. -/
def namedProperties : List (List String × CharSet) :=
  [(["alphabetic", "alpha"], alphabetic),
   (["asciihexdigit", "ahex"], asciiHexDigits),
   (["bidicontrol", "bidic"], bidiControl),
   (["bidimirrored", "bidim"], bidiMirrored),
   (["cased"], cased),
   (["caseignorable", "ci"], caseIgnorable),
   (["changeswhencasefolded", "cwcf"], changesWhenCasefolded),
   (["changeswhencasemapped", "cwcm"], changesWhenCasemapped),
   (["changeswhenlowercased", "cwl"], changesWhenLowercased),
   (["changeswhentitlecased", "cwt"], changesWhenTitlecased),
   (["changeswhenuppercased", "cwu"], changesWhenUppercased),
   (["dash"], dash),
   (["defaultignorablecodepoint", "di"], defaultIgnorable),
   (["deprecated", "dep"], deprecated),
   (["diacritic", "dia"], diacritic),
   (["emoji"], emoji),
   (["emojicomponent", "ecomp"], emojiComponent),
   (["emojimodifier", "emod"], emojiModifier),
   (["emojimodifierbase", "ebase"], emojiModifierBase),
   (["emojipresentation", "epres"], emojiPresentation),
   (["extendedpictographic", "extpict"], extendedPictographic),
   (["extender", "ext"], extender),
   (["graphemebase", "grbase"], graphemeBase),
   (["graphemeextend", "grext"], graphemeExtend),
   (["graphemelink", "grlink"], graphemeLink),
   (["hexdigit", "hex"], hexDigits),
   (["hyphen"], hyphen),
   (["idsbinaryoperator", "idsb"], idsBinaryOperator),
   (["idstrinaryoperator", "idst"], idsTrinaryOperator),
   (["idsunaryoperator", "idsu"], idsUnaryOperator),
   (["idcompatmathcontinue"], idCompatMathContinue),
   (["idcompatmathstart"], idCompatMathStart),
   (["idcontinue", "idc"], idContinue),
   (["idstart", "ids"], idStart),
   (["ideographic", "ideo"], ideographic),
   (["joincontrol", "joinc"], joinControl),
   (["logicalorderexception", "loe"], logicalOrderException),
   (["lowercase", "lower"], lowercase),
   (["math"], math),
   (["modifiercombiningmark", "mcm"], modifierCombiningMark),
   (["noncharactercodepoint", "nchar"], noncharacter),
   (["otheralphabetic", "oalpha"], otherAlphabetic),
   (["otherdefaultignorablecodepoint", "odi"], otherDefaultIgnorable),
   (["othergraphemeextend", "ogrext"], otherGraphemeExtend),
   (["otheridcontinue", "oidc"], otherIdContinue),
   (["otheridstart", "oids"], otherIdStart),
   (["otherlowercase", "olower"], otherLowercase),
   (["othermath", "omath"], otherMath),
   (["otheruppercase", "oupper"], otherUppercase),
   (["patternsyntax", "patsyn"], patternSyntax),
   (["patternwhitespace", "patws"], patternWhiteSpace),
   (["prependedconcatenationmark", "pcm"], prependedConcatenationMark),
   (["quotationmark", "qmark"], quotationMark),
   (["radical"], radical),
   (["regionalindicator", "ri"], regionalIndicator),
   (["sentenceterminal", "sterm"], sentenceTerminal),
   (["softdotted", "sd"], softDotted),
   (["terminalpunctuation", "term"], terminalPunctuation),
   (["unifiedideograph", "uideo"], unifiedIdeograph),
   (["uppercase", "upper"], uppercase),
   (["variationselector", "vs"], variationSelector),
   (["whitespace", "wspace", "space"], whiteSpace),
   (["xidcontinue", "xidc"], xidContinue),
   (["xidstart", "xids"], xidStart)]

/-- The set of this name in a list of named sets. -/
def lookUp (sets : List (List String × CharSet)) (name : String) : Option CharSet :=
  (sets.find? fun entry => entry.1.contains name).map Prod.snd

/--
Names are compared without regard to case, blanks, hyphens and low lines, and a leading `is` is
dropped, except in `isc`.
-/
def normalName (name : List Char) : String :=
  let hasIs := (name.take 2).map Char.toLower == ['i', 's']
  let kept := (if hasIs then name.drop 2 else name).filter fun c =>
    c.toNat ≤ 0x7f && c != ' ' && c != '_' && c != '-'
  let lower := kept.map Char.toLower
  String.ofList (if hasIs && lower == ['c'] then ['i', 's', 'c'] else lower)

/-- What a pattern asks for: a set by its name, or by the name of a property and a value. -/
inductive Query where
  | named (name : List Char)
  | valued (property value : List Char)
deriving DecidableEq, Repr

/-- The set that a query names, if there is one. -/
def property? : Query → Option CharSet
  | .named name =>
      let name := normalName name
      (lookUp namedProperties name <|> lookUp Category.named name) <|> Script.find? name
  | .valued property value =>
      let value := normalName value
      match normalName property with
      | "generalcategory" | "gc" => lookUp Category.named value
      | "script" | "sc" => Script.find? value
      | "scriptextensions" | "scx" => Script.withShared? value
      | "age" => age? value
      | "graphemeclusterbreak" | "gcb" => lookUp GraphemeBreak.named value
      | "wordbreak" | "wb" => lookUp WordBreak.named value
      | "sentencebreak" | "sb" => lookUp SentenceBreak.named value
      | _ => none

end CharSet
end PredictiveParsing

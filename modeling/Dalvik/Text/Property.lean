import Dalvik.Text.Age
import Dalvik.Text.Property.Break
import Dalvik.Text.Property.Identifier
import Dalvik.Text.ScriptExtension

/-!
# Properties of characters by name

The classes of characters that are known by name. Names are compared without case, blanks, hyphens and underscores, and
without a leading `is`.
-/

namespace Dalvik.Text
open Category

/-- A name as names of properties are compared; `isc` keeps its first letters, since it is no name of `c`. -/
def looseName (name : List Char) : String :=
  let plain (cs : List Char) : List Char :=
    (cs.filter fun c => c.toNat < 128 ∧ c ≠ ' ' ∧ c ≠ '_' ∧ c ≠ '-').map Char.toLower
  String.ofList <| match name with
    | i :: s :: rest =>
      if i.toLower = 'i' ∧ s.toLower = 's' ∧ plain rest ≠ ['c'] then plain rest else plain name
    | _ => plain name

/-- The properties that hold of a character or not. -/
def binaryProperties : NamedSets := [
  (["asciihexdigit", "ahex"], asciiHexDigit),
  (["alphabetic", "alpha"], alphabetic),
  (["bidicontrol", "bidic"], bidiControl),
  (["caseignorable", "ci"], caseIgnorable),
  (["cased"], cased),
  (["changeswhencasefolded", "cwcf"], changesWhenCasefolded),
  (["changeswhencasemapped", "cwcm"], changesWhenCasemapped),
  (["changeswhenlowercased", "cwl"], changesWhenLowercased),
  (["changeswhentitlecased", "cwt"], changesWhenTitlecased),
  (["changeswhenuppercased", "cwu"], changesWhenUppercased),
  (["dash"], dash),
  (["defaultignorablecodepoint", "di"], defaultIgnorable),
  (["deprecated", "dep"], discouraged),
  (["diacritic", "dia"], diacritic),
  (["emoji"], emoji),
  (["emojicomponent", "ecomp"], emojiComponent),
  (["emojimodifier", "emod"], emojiModifier),
  (["emojimodifierbase", "ebase"], emojiModifierBase),
  (["emojipresentation", "epres"], emojiPresentation),
  (["extendedpictographic", "extpict"], extendedPictographic),
  (["extender", "ext"], extender),
  (["graphemebase", "grbase"], graphemeBase),
  (["graphemeextend", "grext"], graphemeExtend),
  (["graphemelink", "grlink"], graphemeLink),
  (["hexdigit", "hex"], hexDigit),
  (["hyphen"], hyphen),
  (["idsbinaryoperator", "idsb"], describingBinary),
  (["idstrinaryoperator", "idst"], describingTrinary),
  (["idsunaryoperator", "idsu"], describingUnary),
  (["idcompatmathcontinue"], mathIdContinue),
  (["idcompatmathstart"], mathIdStart),
  (["idcontinue", "idc"], idContinue),
  (["idstart", "ids"], idStart),
  (["ideographic", "ideo"], ideographic),
  (["joincontrol", "joinc"], joinControl),
  (["logicalorderexception", "loe"], logicalOrderException),
  (["lowercase", "lower"], lowercase),
  (["math"], math),
  (["modifiercombiningmark", "mcm"], modifierCombiningMark),
  (["noncharactercodepoint", "nchar"], noncharacter),
  (["otheralphabetic", "oalpha"], otherAlphabetic),
  (["otherdefaultignorablecodepoint", "odi"], otherDefaultIgnorable),
  (["othergraphemeextend", "ogrext"], otherGraphemeExtend),
  (["otheridcontinue", "oidc"], otherIdContinue),
  (["otheridstart", "oids"], otherIdStart),
  (["otherlowercase", "olower"], otherLowercase),
  (["othermath", "omath"], otherMath),
  (["otheruppercase", "oupper"], otherUppercase),
  (["patternsyntax", "patsyn"], patternSyntax),
  (["patternwhitespace", "patws"], patternBlank),
  (["prependedconcatenationmark", "pcm"], prependedConcatenationMark),
  (["quotationmark", "qmark"], quotationMark),
  (["radical"], radical),
  (["regionalindicator", "ri"], regionalIndicator),
  (["sentenceterminal", "sterm"], sentenceTerminal),
  (["softdotted", "sd"], softDotted),
  (["terminalpunctuation", "term"], terminalPunctuation),
  (["unifiedideograph", "uideo"], unifiedIdeograph),
  (["uppercase", "upper"], uppercase),
  (["variationselector", "vs"], variationSelector),
  (["whitespace", "wspace", "space"], blank),
  (["xidcontinue", "xidc"], strictIdContinue),
  (["xidstart", "xids"], strictIdStart)]

/-- The general categories and their unions. -/
def categories : NamedSets := [
  (["any"], .full),
  (["assigned"], assigned),
  (["ascii"], .ascii),
  (["casedletter", "lc"], .ofSets [uppercaseLetter, lowercaseLetter, titlecaseLetter]),
  (["letter", "l"], letters),
  (["mark", "m", "combiningmark"], marks),
  (["number", "n"], numbers),
  (["punctuation", "p", "punct"], punctuation),
  (["symbol", "s"], symbols),
  (["separator", "z"], separators),
  (["other", "c"], .compl (.ofSets [letters, marks, numbers, punctuation, symbols, separators])),
  (["unassigned", "cn"], assigned.compl),
  (["uppercaseletter", "lu"], uppercaseLetter),
  (["lowercaseletter", "ll"], lowercaseLetter),
  (["titlecaseletter", "lt"], titlecaseLetter),
  (["modifierletter", "lm"], modifierLetter),
  (["otherletter", "lo"], otherLetter),
  (["nonspacingmark", "mn"], nonspacingMark),
  (["spacingmark", "mc"], spacingMark),
  (["enclosingmark", "me"], enclosingMark),
  (["digit", "decimalnumber", "nd"], decimalNumber),
  (["letternumber", "nl"], letterNumber),
  (["othernumber", "no"], otherNumber),
  (["connectorpunctuation", "pc"], connectorPunctuation),
  (["dashpunctuation", "pd"], dashPunctuation),
  (["openpunctuation", "ps"], openPunctuation),
  (["closepunctuation", "pe"], closePunctuation),
  (["initialpunctuation", "pi"], initialPunctuation),
  (["finalpunctuation", "pf"], finalPunctuation),
  (["otherpunctuation", "po"], otherPunctuation),
  (["mathsymbol", "sm"], mathSymbol),
  (["currencysymbol", "sc"], currencySymbol),
  (["modifiersymbol", "sk"], modifierSymbol),
  (["othersymbol", "so"], otherSymbol),
  (["spaceseparator", "zs"], spaceSeparator),
  (["lineseparator", "zl"], lineSeparator),
  (["paragraphseparator", "zp"], paragraphSeparator),
  (["cntrl", "control", "cc"], control),
  (["format", "cf"], format),
  (["privateuse", "co"], privateUse)]

/-- The class that a single name stands for. -/
def property? (name : List Char) : Option CharSet :=
  let name := looseName name
  (binaryProperties.get? name).or ((categories.get? name).or (scripts.get? name))

/-- The class of the characters for which the property `name` has the given value. -/
def propertyValue? (name value : List Char) : Option CharSet :=
  match looseName name with
  | "generalcategory" | "gc" => categories.get? (looseName value)
  | "script" | "sc" => scripts.get? (looseName value)
  | "scriptextensions" | "scx" => scriptExtension? (looseName value)
  | "age" => age? (looseName value)
  | "graphemeclusterbreak" | "gcb" => GraphemeBreak.classes.get? (looseName value)
  | "wordbreak" | "wb" => WordBreak.classes.get? (looseName value)
  | "sentencebreak" | "sb" => SentenceBreak.classes.get? (looseName value)
  | _ => none

end Dalvik.Text

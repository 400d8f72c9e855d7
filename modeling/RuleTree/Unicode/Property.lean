import RuleTree.Unicode.Category
import RuleTree.Unicode.PropertyTable

/-!
# Binary properties

Listed properties are read from their tables. The others follow from general
categories, from listed properties and from short lists of exceptions, by the
rules under which the standard derives them. A property is found by a loose
name: lower case, without blanks, hyphens or low lines.
-/

namespace RuleTree.Property

open CodePoints

/-- Letters, letter numbers and the listed others. -/
def alphabetic : CodePoints :=
  .union (Category.membersOf (.letterNumber :: Category.letters))
    (ofTable PropertyTable.otherAlphabetic)

/-- Small letters and the listed others. -/
def lowercase : CodePoints :=
  .union Category.lowercaseLetter.members (ofTable PropertyTable.otherLowercase)

/-- Capital letters and the listed others. -/
def uppercase : CodePoints :=
  .union Category.uppercaseLetter.members (ofTable PropertyTable.otherUppercase)

/-- Characters that are small, capital or titlecase. -/
def cased : CodePoints := .unions [lowercase, uppercase, Category.titlecaseLetter.members]

/-- Marks and signs that a search for the neighbouring cased letter passes over. -/
def caseIgnorable : CodePoints :=
  .union
    (Category.membersOf
      [.nonspacingMark, .enclosingMark, .format, .modifierLetter, .modifierSymbol])
    (ofTable ["27 2E 3A B7 387 55F 5F4 2018-2019 2024 2027 FE13 FE52 FE55 FF07 FF0E FF1A"])

/-- Mathematical symbols and the listed others. -/
def math : CodePoints := .union Category.mathSymbol.members (ofTable PropertyTable.otherMath)

/-- Marks that attach to the character before them. -/
def graphemeExtend : CodePoints :=
  .union (Category.membersOf [.enclosingMark, .nonspacingMark])
    (ofTable PropertyTable.otherGraphemeExtend)

/-- Characters that can stand as the base of a grapheme. -/
def graphemeBase : CodePoints :=
  .complement (.unions [graphemeExtend, between 0xD800 0xDFFF,
    Category.membersOf [.control, .format, .privateUse, .unassigned, .lineSeparator,
      .paragraphSeparator]])

/-- Characters with a meaning in the text of programs and patterns. -/
def patternReserved : CodePoints :=
  .union (ofTable PropertyTable.patternSyntax) (ofTable PropertyTable.patternWhiteSpace)

/-- Characters an identifier may start with. -/
def idStart : CodePoints :=
  .diff (.union (Category.membersOf (.letterNumber :: Category.letters))
    (ofTable PropertyTable.otherIdStart)) patternReserved

/-- Characters an identifier may go on with. -/
def idContinue : CodePoints :=
  .diff (.unions [idStart, ofTable PropertyTable.otherIdContinue,
    Category.membersOf [.nonspacingMark, .spacingMark, .decimalNumber, .connectorPunctuation]])
    patternReserved

/-- Characters without a visible form of their own. -/
def defaultIgnorable : CodePoints :=
  .diff (.unions [ofTable PropertyTable.otherDefaultIgnorable, Category.format.members,
      ofTable PropertyTable.variationSelector])
    (.unions [ofTable PropertyTable.whiteSpace, between 0xFFF9 0xFFFB, between 0x13430 0x1343F,
      ofTable PropertyTable.prependedConcatenationMark])

/-- Code points that will never be characters for interchange. -/
def noncharacter : CodePoints :=
  .union (between 0xFDD0 0xFDEF)
    (.ofRuns ((List.range 17).map fun plane =>
      ⟨plane * 0x10000 + 0xFFFE, plane * 0x10000 + 0xFFFF⟩))

/-- Characters that lowercasing changes. -/
def changedByLowercasing : CodePoints :=
  .diff (.union uppercase Category.titlecaseLetter.members)
    (ofTable PropertyTable.unchangedByLowercasing)

/-- Characters that uppercasing changes. -/
def changedByUppercasing : CodePoints :=
  .diff (.union lowercase Category.titlecaseLetter.members)
    (ofTable PropertyTable.unchangedByUppercasing)

/-- Characters that titlecasing changes. -/
def changedByTitlecasing : CodePoints :=
  .union (.diff changedByUppercasing (ofTable PropertyTable.unchangedByTitlecasing))
    (ofTable PropertyTable.changedByTitlecasingOnly)

/-- Characters that case folding changes. -/
def changedByFolding : CodePoints :=
  .union (.diff changedByLowercasing (ofTable PropertyTable.unchangedByFolding))
    (ofTable PropertyTable.changedByFoldingOnly)

/-- Characters that some change of case changes. -/
def changedByCasing : CodePoints :=
  .unions [changedByLowercasing, changedByUppercasing, changedByTitlecasing]

/-- Characters that stand for white space. -/
def whiteSpace : CodePoints := ofTable PropertyTable.whiteSpace

/-- Characters of words: alphabetic ones, marks, digits, connectors and joiners. -/
def word : CodePoints :=
  .unions [alphabetic, ofTable PropertyTable.joinControl,
    Category.membersOf (.decimalNumber :: .connectorPunctuation :: Category.marks)]

/-- Characters that are neither controls nor format characters, private or
unassigned ones, nor separators other than the space. -/
def printable : CodePoints :=
  .union (ofChar ' ')
    (.complement (.union (between 0xD800 0xDFFF)
      (Category.membersOf (Category.others ++ Category.separators))))

/-- Every binary property with its loose names. -/
def named : List (List String × (Unit → CodePoints)) :=
  [(["ahex", "asciihexdigit"], fun _ => ofTable PropertyTable.asciiHexDigit),
   (["alpha", "alphabetic"], fun _ => alphabetic),
   (["bidic", "bidicontrol"], fun _ => ofTable PropertyTable.bidiControl),
   (["bidim", "bidimirrored"], fun _ => ofTable PropertyTable.bidiMirrored),
   (["ci", "caseignorable"], fun _ => caseIgnorable),
   (["cased"], fun _ => cased),
   (["cwcf", "changeswhencasefolded"], fun _ => changedByFolding),
   (["cwcm", "changeswhencasemapped"], fun _ => changedByCasing),
   (["cwl", "changeswhenlowercased"], fun _ => changedByLowercasing),
   (["cwt", "changeswhentitlecased"], fun _ => changedByTitlecasing),
   (["cwu", "changeswhenuppercased"], fun _ => changedByUppercasing),
   (["dash"], fun _ => ofTable PropertyTable.dash),
   (["dep", "deprecated"], fun _ => ofTable PropertyTable.deprecated),
   (["di", "defaultignorablecodepoint"], fun _ => defaultIgnorable),
   (["dia", "diacritic"], fun _ => ofTable PropertyTable.diacritic),
   (["ebase", "emojimodifierbase"], fun _ => ofTable PropertyTable.emojiModifierBase),
   (["ecomp", "emojicomponent"], fun _ => ofTable PropertyTable.emojiComponent),
   (["emod", "emojimodifier"], fun _ => ofTable PropertyTable.emojiModifier),
   (["emoji"], fun _ => ofTable PropertyTable.emoji),
   (["epres", "emojipresentation"], fun _ => ofTable PropertyTable.emojiPresentation),
   (["ext", "extender"], fun _ => ofTable PropertyTable.extender),
   (["extpict", "extendedpictographic"], fun _ => ofTable PropertyTable.extendedPictographic),
   (["grbase", "graphemebase"], fun _ => graphemeBase),
   (["grext", "graphemeextend"], fun _ => graphemeExtend),
   (["grlink", "graphemelink"], fun _ => ofTable PropertyTable.graphemeLink),
   (["hex", "hexdigit"], fun _ => ofTable PropertyTable.hexDigit),
   (["hyphen"], fun _ => ofTable PropertyTable.hyphen),
   (["idc", "idcontinue"], fun _ => idContinue),
   (["idcompatmathcontinue"], fun _ => ofTable PropertyTable.idCompatMathContinue),
   (["idcompatmathstart"], fun _ => ofTable PropertyTable.idCompatMathStart),
   (["ideo", "ideographic"], fun _ => ofTable PropertyTable.ideographic),
   (["ids", "idstart"], fun _ => idStart),
   (["idsb", "idsbinaryoperator"], fun _ => ofTable PropertyTable.idsBinaryOperator),
   (["idst", "idstrinaryoperator"], fun _ => ofTable PropertyTable.idsTrinaryOperator),
   (["idsu", "idsunaryoperator"], fun _ => ofTable PropertyTable.idsUnaryOperator),
   (["joinc", "joincontrol"], fun _ => ofTable PropertyTable.joinControl),
   (["loe", "logicalorderexception"], fun _ => ofTable PropertyTable.logicalOrderException),
   (["lower", "lowercase"], fun _ => lowercase),
   (["math"], fun _ => math),
   (["mcm", "modifiercombiningmark"], fun _ => ofTable PropertyTable.modifierCombiningMark),
   (["nchar", "noncharactercodepoint"], fun _ => noncharacter),
   (["oalpha", "otheralphabetic"], fun _ => ofTable PropertyTable.otherAlphabetic),
   (["odi", "otherdefaultignorablecodepoint"],
     fun _ => ofTable PropertyTable.otherDefaultIgnorable),
   (["ogrext", "othergraphemeextend"], fun _ => ofTable PropertyTable.otherGraphemeExtend),
   (["oidc", "otheridcontinue"], fun _ => ofTable PropertyTable.otherIdContinue),
   (["oids", "otheridstart"], fun _ => ofTable PropertyTable.otherIdStart),
   (["olower", "otherlowercase"], fun _ => ofTable PropertyTable.otherLowercase),
   (["omath", "othermath"], fun _ => ofTable PropertyTable.otherMath),
   (["oupper", "otheruppercase"], fun _ => ofTable PropertyTable.otherUppercase),
   (["patsyn", "patternsyntax"], fun _ => ofTable PropertyTable.patternSyntax),
   (["patws", "patternwhitespace"], fun _ => ofTable PropertyTable.patternWhiteSpace),
   (["pcm", "prependedconcatenationmark"],
     fun _ => ofTable PropertyTable.prependedConcatenationMark),
   (["qmark", "quotationmark"], fun _ => ofTable PropertyTable.quotationMark),
   (["radical"], fun _ => ofTable PropertyTable.radical),
   (["ri", "regionalindicator"], fun _ => ofTable PropertyTable.regionalIndicator),
   (["sd", "softdotted"], fun _ => ofTable PropertyTable.softDotted),
   (["space", "wspace", "whitespace"], fun _ => whiteSpace),
   (["sterm", "sentenceterminal"], fun _ => ofTable PropertyTable.sentenceTerminal),
   (["term", "terminalpunctuation"], fun _ => ofTable PropertyTable.terminalPunctuation),
   (["uideo", "unifiedideograph"], fun _ => ofTable PropertyTable.unifiedIdeograph),
   (["upper", "uppercase"], fun _ => uppercase),
   (["vs", "variationselector"], fun _ => ofTable PropertyTable.variationSelector),
   (["xidc", "xidcontinue"],
     fun _ => .diff idContinue (ofTable PropertyTable.excludedFromClosedContinue)),
   (["xids", "xidstart"], fun _ => .diff idStart (ofTable PropertyTable.excludedFromClosedStart))]

/-- The members of the binary property known by a loose name. -/
def members? (name : String) : Option CodePoints :=
  (named.find? fun entry => entry.1.contains name).map fun entry => entry.2 ()

end RuleTree.Property

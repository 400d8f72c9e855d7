import RuleTree.Unicode.Property
import RuleTree.Unicode.Script

/-!
# Boundary classes

Three partitions say where a text may be divided: into graphemes, words and
sentences. Each class follows from categories and properties, with short lists
where the standard names characters one by one. The class of all remaining
characters has no name here.
-/

namespace RuleTree.Boundary

open CodePoints

/-- The carriage return, the line feed and the joiner of pictures are classes of
their own in every partition that has them. -/
def carriageReturn : CodePoints := single 0x0D

/-- The line feed. -/
def lineFeed : CodePoints := single 0x0A

/-- The zero width joiner. -/
def joiner : CodePoints := single 0x200D

/-- Marks and modifiers that attach to what comes before. -/
def graphemeExtend : CodePoints :=
  .diff (.union Property.graphemeExtend (ofTable PropertyTable.emojiModifier)) joiner

/-- Spacing marks, without those that stand for a syllable of their own. -/
def graphemeSpacing : CodePoints :=
  .diff (.union Category.spacingMark.members (ofTable ["E33 EB3"]))
    (.union graphemeExtend
      (ofTable ["102B-102C 1038 1062-1064 1067-106D 1083 1087-108C 108F 109A-109C 1A61 1A63-1A64",
        "AA7B AA7D 11720-11721"]))

/-- Controls, separators and invisible characters that attach to nothing. -/
def graphemeControl : CodePoints :=
  .diff
    (.union (Category.membersOf [.lineSeparator, .paragraphSeparator, .control, .format])
      (.inter Category.unassigned.members Property.defaultIgnorable))
    (.unions [carriageReturn, lineFeed, ofTable ["200C-200D"], Property.graphemeExtend,
      ofTable PropertyTable.prependedConcatenationMark])

/-- Syllables of two letters: every twenty-eighth from the first. -/
def syllablePairs : CodePoints :=
  .ofRuns ((List.range 399).map fun index => ⟨0xAC00 + 28 * index, 0xAC00 + 28 * index⟩)

/-- The classes of graphemes with their loose names. -/
def graphemeClasses : List (List String × (Unit → CodePoints)) :=
  [(["cr"], fun _ => carriageReturn),
   (["lf"], fun _ => lineFeed),
   (["cn", "control"], fun _ => graphemeControl),
   (["ex", "extend"], fun _ => graphemeExtend),
   (["l"], fun _ => ofTable ["1100-115F A960-A97C"]),
   (["v"], fun _ => ofTable ["1160-11A7 D7B0-D7C6 16D63 16D67-16D6A"]),
   (["t"], fun _ => ofTable ["11A8-11FF D7CB-D7FB"]),
   (["lv"], fun _ => syllablePairs),
   (["lvt"], fun _ => .diff (between 0xAC00 0xD7A3) syllablePairs),
   (["pp", "prepend"], fun _ =>
     ofTable ["600-605 6DD 70F 890-891 8E2 D4E 110BD 110CD 111C2-111C3 113D1 1193F 11941 11A3A",
       "11A84-11A89 11D46 11F02"]),
   (["ri", "regionalindicator"], fun _ => ofTable PropertyTable.regionalIndicator),
   (["sm", "spacingmark"], fun _ => graphemeSpacing),
   (["zwj"], fun _ => joiner)]

/-- Marks of any kind and modifiers, which belong to the word before them. -/
def wordExtend : CodePoints :=
  .diff (.unions [Property.graphemeExtend, Category.spacingMark.members,
    ofTable PropertyTable.emojiModifier]) joiner

/-- Letters of the Hebrew script. -/
def hebrewLetters : CodePoints :=
  ofTable ["5D0-5EA 5EF-5F2 FB1D FB1F-FB28 FB2A-FB36 FB38-FB3C FB3E FB40-FB41 FB43-FB44 FB46-FB4F"]

/-- Katakana and what is written with it. -/
def katakana : CodePoints :=
  ofTable ["3031-3035 309B-309C 30A0-30FA 30FC-30FF 31F0-31FF 32D0-32FE 3300-3357 FF66-FF9D",
    "1AFF0-1AFF3 1AFF5-1AFFB 1AFFD-1AFFE 1B000 1B120-1B122 1B155 1B164-1B167"]

/-- Letters of scripts whose words are found by other means: Thai, Lao, Myanmar,
Khmer and their neighbours, and Hiragana. -/
def unspacedLetters : CodePoints :=
  ofTable ["E01-E30 E32-E33 E40-E46 E81-E82 E84 E86-E8A E8C-EA3 EA5 EA7-EB0 EB2-EB3 EBD EC0-EC4",
    "EC6 EDC-EDF 1000-102A 103F 1050-1055 105A-105D 1061 1065-1066 106E-1070 1075-1081 108E",
    "1780-17B3 17D7 17DC 1950-196D 1970-1974 1980-19AB 19B0-19C9 1A20-1A54 1AA7 3041-3096",
    "309D-309F A9E0-A9E4 A9E6-A9EF A9FA-A9FE AA60-AA76 AA7A AA7E-AAAF AAB1 AAB5-AAB6 AAB9-AABD",
    "AAC0 AAC2 AADB-AADD 11700-1171A 11740-11746 1B001-1B11F 1B132 1B150-1B152"]

/-- Letters that stand in words, with the modifiers counted as letters. -/
def wordLetters : CodePoints :=
  .union
    (.diff Property.alphabetic (.unions [ofTable PropertyTable.ideographic, wordExtend,
      hebrewLetters, katakana, unspacedLetters]))
    (ofTable ["2C2-2C5 2D2-2D7 2DE-2DF 2E5-2EB 2ED 2EF-2FF 55A-55C 55E 58A 5F3 A708-A716",
      "A720-A721 A789-A78A AB5B"])

/-- Digits and the decimal separator of Arabic. -/
def wordNumbers : CodePoints := .union Category.decimalNumber.members (single 0x66B)

/-- Format characters that take no part in words. -/
def wordFormat : CodePoints :=
  .diff Category.format.members (.union (ofTable ["200B-200D"]) Property.graphemeExtend)

/-- The classes of words with their loose names. -/
def wordClasses : List (List String × (Unit → CodePoints)) :=
  [(["cr"], fun _ => carriageReturn),
   (["lf"], fun _ => lineFeed),
   (["nl", "newline"], fun _ => ofTable ["B-C 85 2028-2029"]),
   (["dq", "doublequote"], fun _ => single 0x22),
   (["sq", "singlequote"], fun _ => single 0x27),
   (["ex", "extendnumlet"], fun _ => ofTable ["5F 202F 203F-2040 2054 FE33-FE34 FE4D-FE4F FF3F"]),
   (["extend"], fun _ => wordExtend),
   (["fo", "format"], fun _ => wordFormat),
   (["hl", "hebrewletter"], fun _ => hebrewLetters),
   (["ka", "katakana"], fun _ => katakana),
   (["le", "aletter"], fun _ => wordLetters),
   (["mb", "midnumlet"], fun _ => ofTable ["2E 2018-2019 2024 FE52 FF07 FF0E"]),
   (["ml", "midletter"], fun _ => ofTable ["3A B7 387 55F 5F4 2027 FE13 FE55 FF1A"]),
   (["mn", "midnum"], fun _ =>
     ofTable ["2C 3B 37E 589 60C-60D 66C 7F8 2044 FE10 FE14 FE50 FE54 FF0C FF1B"]),
   (["nu", "numeric"], fun _ => wordNumbers),
   (["ri", "regionalindicator"], fun _ => ofTable PropertyTable.regionalIndicator),
   (["wsegspace"], fun _ => ofTable ["20 1680 2000-2006 2008-200A 205F 3000"]),
   (["zwj"], fun _ => joiner)]

/-- Marks of any kind. -/
def sentenceExtend : CodePoints :=
  .unions [Property.graphemeExtend, Category.spacingMark.members, joiner]

/-- Small letters. The small letters of Georgian count as letters without case. -/
def sentenceLower : CodePoints :=
  .diff Property.lowercase (.union sentenceExtend (ofTable ["10D0-10FA 10FD-10FF"]))

/-- Capitals, again without those of Georgian. -/
def sentenceUpper : CodePoints :=
  .diff (.union Property.uppercase Category.titlecaseLetter.members)
    (ofTable ["1C90-1CBA 1CBD-1CBF"])

/-- The full stop and its variants. -/
def sentenceStop : CodePoints := ofTable ["2E 2024 FE52 FF0E"]

/-- Separators of lines and paragraphs. -/
def sentenceSeparator : CodePoints := ofTable ["85 2028-2029"]

/-- The classes of sentences with their loose names. -/
def sentenceClasses : List (List String × (Unit → CodePoints)) :=
  [(["at", "aterm"], fun _ => sentenceStop),
   (["cl", "close"], fun _ =>
     .union
       (Category.membersOf
         [.openPunctuation, .closePunctuation, .initialPunctuation, .finalPunctuation])
       (ofTable ["22 27 275B-2760 2E00-2E01 2E06-2E08 2E0B 1F676-1F678"])),
   (["cr"], fun _ => carriageReturn),
   (["ex", "extend"], fun _ => sentenceExtend),
   (["fo", "format"], fun _ => .union wordFormat (single 0x200B)),
   (["le", "oletter"], fun _ =>
     .diff (.union Property.alphabetic (single 0x5F3))
       (.unions [sentenceLower, sentenceUpper, sentenceExtend])),
   (["lf"], fun _ => lineFeed),
   (["lo", "lower"], fun _ => sentenceLower),
   (["nu", "numeric"], fun _ => .union wordNumbers (single 0x66C)),
   (["sc", "scontinue"], fun _ =>
     ofTable ["2C-2D 3A 55D 60C-60D 7F8 1802 1808 2013-2014 3001 FE10-FE11 FE13 FE31-FE32",
       "FE50-FE51 FE55 FE58 FE63 FF0C-FF0D FF1A FF64"]),
   (["se", "sep"], fun _ => sentenceSeparator),
   (["sp"], fun _ =>
     .diff Property.whiteSpace (.unions [sentenceSeparator, carriageReturn, lineFeed])),
   (["st", "sterm"], fun _ =>
     .diff (ofTable PropertyTable.sentenceTerminal) sentenceStop),
   (["up", "upper"], fun _ => sentenceUpper)]

/-- The class of that loose name in a list of classes. -/
def named? (name : String) (classes : List (List String × (Unit → CodePoints))) :
    Option CodePoints :=
  (classes.find? fun entry => entry.1.contains name).map fun entry => entry.2 ()

end RuleTree.Boundary

import SqlProbe.Unicode.Property
import SqlProbe.Unicode.Script

/-!
# Breaks

How characters take part in finding the borders of graphemes, words and
sentences. Each of the three divides the characters into classes; those in no
class stay alone.

* `graphemeBreaks`, `wordBreaks`, `sentenceBreaks`: the classes, with their names.
-/

namespace SqlProbe

namespace Unicode

/-! ### Lines -/

/-- The carriage return. -/
def carriageReturn : CharSet := .single '\r'

/-- The line feed. -/
def lineFeed : CharSet := .single '\n'

/-! ### Graphemes -/

/-- The characters that extend a grapheme, modifiers of emoji among them. -/
def graphemeExtension : CharSet := graphemeExtend.union emojiModifier

/-- The characters before and after which a grapheme ends. -/
def graphemeControl : CharSet :=
  ((ofCategories [.lineSeparator, .paragraphSeparator, .control, .format]).union
    (defaultIgnorable.diff assigned)).diff
      (.unions [carriageReturn, lineFeed, joinControl, prependedConcatenationMark,
        graphemeExtension])

/-- The signs that join the character after them. -/
def prepended : CharSet := prependedConcatenationMark.union (.ofText
  "D4E 111C2..111C3 113D1 1193F 11941 11A3A 11A84..11A89 11D46 11F02")

/-- The spacing marks that stay with the character before them. -/
def spacingJoined : CharSet :=
  ((Category.spacingMarkChars.union (.ofText "E33 EB3")).diff graphemeExtension).diff (.ofText
    "102B..102C 1038 1062..1064 1067..106D 1083 1087..108C 108F 109A..109C 1A61 1A63..1A64 AA7B
     AA7D 11720..11721")

/-- The leading consonants of Hangul. -/
def hangulLeading : CharSet := .ofText "1100..115F A960..A97C"

/-- The vowels of Hangul. -/
def hangulVowel : CharSet := .ofText "1160..11A7 D7B0..D7C6 16D63 16D67..16D6A"

/-- The trailing consonants of Hangul. -/
def hangulTrailing : CharSet := .ofText "11A8..11FF D7CB..D7FB"

/-- The syllables of Hangul without a trailing consonant: every twenty-eighth. -/
def hangulOpen : CharSet := .ofText "AC00..D788/1C"

/-- The syllables of Hangul with a trailing consonant. -/
def hangulClosed : CharSet := (CharSet.interval 0xAC00 0xD7A3).diff hangulOpen

/-- The joiner. -/
def joiner : CharSet := .interval 0x200D 0x200D

/-- The classes of grapheme breaks, with their names. -/
def graphemeBreaks : List NamedSet :=
  [⟨["CR"], carriageReturn⟩,
    ⟨["Control", "cn"], graphemeControl⟩,
    ⟨["Extend", "ex"], graphemeExtension⟩,
    ⟨["L"], hangulLeading⟩,
    ⟨["LF"], lineFeed⟩,
    ⟨["LV"], hangulOpen⟩,
    ⟨["LVT"], hangulClosed⟩,
    ⟨["Prepend", "pp"], prepended⟩,
    ⟨["Regional_Indicator", "ri"], regionalIndicator⟩,
    ⟨["SpacingMark", "sm"], spacingJoined⟩,
    ⟨["T"], hangulTrailing⟩,
    ⟨["V"], hangulVowel⟩,
    ⟨["ZWJ"], joiner⟩]

/-! ### Words -/

/-- The digits of words. -/
def wordNumeric : CharSet :=
  Category.decimalNumberChars.union (.ofText "600..605 66B 6DD 890..891 8E2 19DA 110BD 110CD")

/-- The marks that are passed over inside words. -/
def wordExtension : CharSet :=
  (graphemeExtension.union Category.spacingMarkChars).diff joiner

/-- The letters of Hebrew. -/
def hebrewLetters : CharSet :=
  ((find? scripts "hebrew").getD .empty).inter Category.otherLetterChars

/-- The letters of Katakana, with the signs that are used like letters. -/
def katakana : CharSet :=
  ((find? scripts "katakana").getD .empty).union (.ofText
    "3031..3035 309B..309C 30A0 30FC FF70")

/-- The letters of the scripts that are written without blanks between words. -/
def unseparatedLetters : CharSet := .ofText
  "E01..E30 E32..E33 E40..E46 E81..E82 E84 E86..E8A E8C..EA3 EA5 EA7..EB0 EB2..EB3 EBD EC0..EC4
   EC6 EDC..EDF 1000..102A 103F 1050..1055 105A..105D 1061 1065..1066 106E..1070 1075..1081 108E
   1780..17B3 17D7 17DC 1950..196D 1970..1974 1980..19AB 19B0..19C9 1A20..1A54 1AA7 A9E0..A9E4
   A9E6..A9EF A9FA..A9FE AA60..AA76 AA7A AA7E..AAAF AAB1 AAB5..AAB6 AAB9..AABD AAC0 AAC2
   AADB..AADD 11700..1171A 11740..11746"

/-- The signs that are used like letters. -/
def letterSigns : CharSet := .ofText
  "2C2..2C5 2D2..2D7 2DE..2DF 2E5..2EB 2ED 2EF..2FF 55A..55C 55E 58A 5F3 70F A708..A716 A720..A721
   A789..A78A AB5B"

/-- The other letters that make up words. -/
def wordLetters : CharSet :=
  (alphabetic.diff (.unions [ideographs, katakana, (find? scripts "hiragana").getD .empty,
    wordExtension, hebrewLetters, unseparatedLetters])).union letterSigns

/-- The format characters that are passed over inside words. -/
def wordFormat : CharSet :=
  Category.formatChars.diff
    (.unions [wordExtension, joinControl, wordNumeric, letterSigns, .interval 0x200B 0x200B])

/-- The connectors inside words. -/
def wordConnectors : CharSet :=
  Category.connectorPunctuationChars.union (.ofText "202F")

/-- The signs that are kept between digits. -/
def midNumbers : CharSet := .ofText
  "2C 3B 37E 589 60C..60D 66C 7F8 2044 FE50 FE54 FF0C FF1B"

/-- The other breaks of lines. -/
def newlines : CharSet := .ofText "B..C 85 2028..2029"

/-- The blanks between words. -/
def wordBlanks : CharSet := Category.spaceSeparatorChars.diff (.ofText "A0 2007 202F")

/-- The classes of word breaks, with their names. -/
def wordBreaks : List NamedSet :=
  [⟨["ALetter", "le"], wordLetters⟩,
    ⟨["CR"], carriageReturn⟩,
    ⟨["Double_Quote", "dq"], .single '"'⟩,
    ⟨["Extend"], wordExtension⟩,
    ⟨["ExtendNumLet", "ex"], wordConnectors⟩,
    ⟨["Format", "fo"], wordFormat⟩,
    ⟨["Hebrew_Letter", "hl"], hebrewLetters⟩,
    ⟨["Katakana", "ka"], katakana⟩,
    ⟨["LF"], lineFeed⟩,
    ⟨["MidLetter", "ml"], midLetters⟩,
    ⟨["MidNum", "mn"], midNumbers⟩,
    ⟨["MidNumLet", "mb"], midNumLets⟩,
    ⟨["Newline", "nl"], newlines⟩,
    ⟨["Numeric", "nu"], wordNumeric⟩,
    ⟨["Regional_Indicator", "ri"], regionalIndicator⟩,
    ⟨["Single_Quote", "sq"], .single '\''⟩,
    ⟨["WSegSpace"], wordBlanks⟩,
    ⟨["ZWJ"], joiner⟩]

/-! ### Sentences -/

/-- The dots that may end a sentence. -/
def dots : CharSet := .ofText "2E 2024 FE52 FF0E"

/-- The marks that are passed over inside sentences. -/
def sentenceExtension : CharSet :=
  .unions [graphemeExtend, Category.spacingMarkChars, joiner]

/-- The digits of sentences. -/
def sentenceNumeric : CharSet := wordNumeric.union (.ofText "66C")

/-- The format characters that are passed over inside sentences. -/
def sentenceFormat : CharSet :=
  Category.formatChars.diff (.unions [sentenceExtension, joinControl, sentenceNumeric])

/-- The lowercase letters of sentences; the letters of Georgian have no case here. -/
def sentenceLower : CharSet :=
  (lowercase.diff graphemeExtend).diff (.ofText "10D0..10FA 10FD..10FF")

/-- The uppercase letters of sentences. -/
def sentenceUpper : CharSet :=
  (uppercase.union Category.titlecaseLetterChars).diff (.ofText "1C90..1CBA 1CBD..1CBF")

/-- The letters of sentences without a case. -/
def sentenceLetters : CharSet :=
  (alphabetic.union (.ofText "5F3")).diff
    (.unions [sentenceLower, sentenceUpper, sentenceExtension])

/-- The separators of paragraphs. -/
def sentenceSeparators : CharSet := .ofText "85 2028..2029"

/-- The blanks of sentences. -/
def sentenceBlanks : CharSet :=
  whiteSpace.diff (.unions [sentenceSeparators, carriageReturn, lineFeed])

/-- The signs after which a sentence goes on. -/
def continuing : CharSet := .ofText
  "2C..2D 3A..3B 37E 55D 60C..60D 7F8 1802 1808 2013..2014 3001 FE10..FE11 FE13..FE14 FE31..FE32
   FE50..FE51 FE54..FE55 FE58 FE63 FF0C..FF0D FF1A..FF1B FF64"

/-- The signs that end a sentence and are no dots. -/
def sentenceEnds : CharSet := sentenceTerminal.diff dots

/-- The brackets and quotation marks. -/
def closing : CharSet :=
  ((ofCategories
      [.openPunctuation, .closePunctuation, .initialPunctuation, .finalPunctuation]).union
    (quotationMark.diff (.ofText "FF02 FF07"))).union (.ofText
      "275B..2760 2E00..2E01 2E06..2E08 2E0B 1F676..1F678")

/-- The classes of sentence breaks, with their names. -/
def sentenceBreaks : List NamedSet :=
  [⟨["ATerm", "at"], dots⟩,
    ⟨["CR"], carriageReturn⟩,
    ⟨["Close", "cl"], closing⟩,
    ⟨["Extend", "ex"], sentenceExtension⟩,
    ⟨["Format", "fo"], sentenceFormat⟩,
    ⟨["LF"], lineFeed⟩,
    ⟨["Lower", "lo"], sentenceLower⟩,
    ⟨["Numeric", "nu"], sentenceNumeric⟩,
    ⟨["OLetter", "le"], sentenceLetters⟩,
    ⟨["SContinue", "sc"], continuing⟩,
    ⟨["STerm", "st"], sentenceEnds⟩,
    ⟨["Sep", "se"], sentenceSeparators⟩,
    ⟨["Sp"], sentenceBlanks⟩,
    ⟨["Upper", "up"], sentenceUpper⟩]

end Unicode

end SqlProbe

import SafeMarkup.Text.Property
import SafeMarkup.Text.Script

/-!
Contract: where characters stand in grapheme clusters, words and sentences, by the standard on the
segmentation of text.

Owns: the values of the three properties under their names.
Does not own: cutting a text into segments. A character without a value has none of the names here.
-/

namespace SafeMarkup.Text
namespace Break

open Property

/-! ## Grapheme clusters -/

def graphemeControls : Thunk Ranges := .mk fun _ =>
  let hidden := Ranges.inter defaultIgnorable.get Category.unassigned.ranges
  let kept := anyOf [] [table "A D 200D", graphemeExtend, prependedConcatenationMark]
  (without (anyOf [.control, .format, .lineSeparator, .paragraphSeparator] [.mk fun _ => hidden])
    kept).get

/-- What is written on the character before it. -/
def graphemeExtensions : Thunk Ranges := anyOf [] [graphemeExtend, emojiModifier]

/-- What is written on the character behind it. -/
def prepended : Thunk Ranges := table
  "600-605 6DD 70F 890-891 8E2 D4E 110BD 110CD 111C2-111C3 113D1 1193F 11941 11A84-11A89 11D46
  11F02"

/-- Spacing marks that are characters by themselves. -/
def apartMarks : Thunk Ranges := table
  "102B-102C 1038 1062-1064 1067-106D 1083 1087-108C 108F 109A-109C 1A61 1A63-1A64 AA7B AA7D
  11720-11721"

/-- Spacing marks that belong to the character before them. -/
def spacingMarks : Thunk Ranges := without
  (anyOf [.spacingMark] [table "E33 EB3"]) (anyOf [] [graphemeExtend, apartMarks])

/-- Consonants at the beginning of a syllable. -/
def leadingJamo : Thunk Ranges := table "1100-115F A960-A97C"

def vowelJamo : Thunk Ranges := table "1160-11A7 D7B0-D7C6 16D63 16D67-16D6A"

/-- Consonants at the end of a syllable. -/
def trailingJamo : Thunk Ranges := table "11A8-11FF D7CB-D7FB"

def openSyllables : Thunk Ranges := table "AC00-D788/1C"

def closedSyllables : Thunk Ranges := without (table "AC00-D7A3") openSyllables

def zeroWidthJoiner : Thunk Ranges := table "200D"

def carriageReturn : Thunk Ranges := table "D"

def lineFeed : Thunk Ranges := table "A"

/-- The places of a character in a grapheme cluster. -/
def graphemeBreaks : List (List String × Thunk Ranges) :=
  [(["control", "cn"], graphemeControls),
   (["cr"], carriageReturn),
   (["extend", "ex"], graphemeExtensions),
   (["l"], leadingJamo),
   (["lf"], lineFeed),
   (["lv"], openSyllables),
   (["lvt"], closedSyllables),
   (["prepend", "pp"], prepended),
   (["regionalindicator", "ri"], regionalIndicator),
   (["spacingmark", "sm"], spacingMarks),
   (["t"], trailingJamo),
   (["v"], vowelJamo),
   (["zwj"], zeroWidthJoiner)]

/-! ## Words -/

/-- What is written on the characters of a word. -/
def wordExtensions : Thunk Ranges := anyOf [.spacingMark] [graphemeExtend, emojiModifier]

/-- Format characters that words are read past. -/
def wordFormats : Thunk Ranges := table
  "AD 61C 180E 200E-200F 202A-202E 2060-2064 2066-206F FEFF FFF9-FFFB 13430-1343F 1BCA0-1BCA3
  1D173-1D17A E0001"

/-- Hebrew letters, which may have quotation marks between them. -/
def hebrewLetters : Thunk Ranges := table
  "5D0-5EA 5EF-5F2 FB1D FB1F-FB28 FB2A-FB36 FB38-FB3C FB3E FB40-FB41 FB43-FB44 FB46-FB4F"

/-- Katakana and the marks written with it. -/
def katakana : Thunk Ranges := table
  "3031-3035 309B-309C 30A0-30FA 30FC-30FF 31F0-31FF 32D0-32FE 3300-3357 FF66-FF9D 1AFF0-1AFF3
  1AFF5-1AFFB 1AFFD-1AFFE 1B000 1B120-1B122 1B155 1B164-1B167"

/-- Letters of scripts that are written without blanks between words. -/
def unspacedScripts : Thunk Ranges := .mk fun _ =>
  .ordered (names.flatMap fun name => (scriptNamed? name).getD [])
where
  names : List String :=
    ["thai", "laoo", "mymr", "khmr", "tale", "talu", "lana", "tavt", "ahom", "hira"]

/-- Letters that make words with their neighbours. -/
def wordLetters : Thunk Ranges := without
  (anyOf [] [alphabetic, table
    "B8 2C2-2C5 2D2-2D7 2DE-2DF 2E5-2EB 2ED 2EF-2FF 55A-55C 55E 58A 5F3 70F A708-A716 A720-A721
    A789-A78A AB5B"])
  (anyOf [] [ideographic, katakana, unspacedScripts, wordExtensions, hebrewLetters])

def midLetters : Thunk Ranges := table "3A B7 387 55F 5F4 2027 FE13 FE55 FF1A"

def midNumbers : Thunk Ranges := table "2C 3B 37E 589 60C-60D 66C 7F8 2044 FE50 FE54 FF0C FF1B"

def midEither : Thunk Ranges := table "2E 2018-2019 2024 FE52 FF07 FF0E"

/-- Digits, and marks that are read with them. -/
def wordDigits : Thunk Ranges := anyOf [.decimalNumber]
  [table "600-605 66B 6DD 890-891 8E2 19DA 110BD 110CD"]

/-- Marks that make one word of two. -/
def wordConnectors : Thunk Ranges := table "5F 202F 203F-2040 2054 FE33-FE34 FE4D-FE4F FF3F"

def wordBlanks : Thunk Ranges := table "20 1680 2000-2006 2008-200A 205F 3000"

/-- The places of a character in words. -/
def wordBreaks : List (List String × Thunk Ranges) :=
  [(["aletter", "le"], wordLetters),
   (["cr"], carriageReturn),
   (["doublequote", "dq"], table "22"),
   (["extend"], wordExtensions),
   (["extendnumlet", "ex"], wordConnectors),
   (["format", "fo"], wordFormats),
   (["hebrewletter", "hl"], hebrewLetters),
   (["katakana", "ka"], katakana),
   (["lf"], lineFeed),
   (["midletter", "ml"], midLetters),
   (["midnum", "mn"], midNumbers),
   (["midnumlet", "mb"], midEither),
   (["newline", "nl"], table "B-C 85 2028-2029"),
   (["numeric", "nu"], wordDigits),
   (["regionalindicator", "ri"], regionalIndicator),
   (["singlequote", "sq"], table "27"),
   (["wsegspace"], wordBlanks),
   (["zwj"], zeroWidthJoiner)]

/-! ## Sentences -/

/-- What is written on the characters of a sentence. -/
def sentenceExtensions : Thunk Ranges := anyOf [.spacingMark] [graphemeExtend, zeroWidthJoiner]

/-- Format characters that sentences are read past. -/
def sentenceFormats : Thunk Ranges := table
  "AD 61C 70F 180E 200B 200E-200F 202A-202E 2060-2064 2066-206F FEFF FFF9-FFFB 13430-1343F
  1BCA0-1BCA3 1D173-1D17A E0001"

def sentenceBlanks : Thunk Ranges := table "9 B-C 20 A0 1680 2000-200A 202F 205F 3000"

/-- Letters that go on with a sentence. -/
def sentenceSmall : Thunk Ranges := without lowercase
  (anyOf [] [graphemeExtend, table "10D0-10FA 10FD-10FF"])

def sentenceCapitals : Thunk Ranges := without
  (anyOf [.titlecaseLetter] [uppercase]) (table "1C90-1CBA 1CBD-1CBF")

def sentenceLetters : Thunk Ranges := without (anyOf [] [alphabetic, table "5F3"])
  (anyOf [] [sentenceSmall, sentenceCapitals, sentenceExtensions])

/-- Digits, and marks that are read with them. -/
def sentenceDigits : Thunk Ranges := anyOf [.decimalNumber]
  [table "600-605 66B-66C 6DD 890-891 8E2 19DA 110BD 110CD"]

def fullStops : Thunk Ranges := table "2E 2024 FE52 FF0E"

/-- Marks behind which a sentence goes on. -/
def continuations : Thunk Ranges := table
  "2C-2D 3A-3B 37E 55D 60C-60D 7F8 1802 1808 2013-2014 3001 FE10-FE11 FE13-FE14 FE31-FE32 FE50-FE51
  FE54-FE55 FE58 FE63 FF0C-FF0D FF1A-FF1B FF64"

def sentenceEnds : Thunk Ranges := table
  "21 3F 589 61D-61F 6D4 700-702 7F9 837 839 83D-83E 964-965 104A-104B 1362 1367-1368 166E 1735-1736
  17D4-17D5 1803 1809 1944-1945 1AA8-1AAB 1B4E-1B4F 1B5A-1B5B 1B5E-1B5F 1B7D-1B7F 1C3B-1C3C
  1C7E-1C7F 203C-203D 2047-2049 2CF9-2CFB 2E2E 2E3C 2E53-2E54 3002 A4FF A60E-A60F A6F3 A6F7
  A876-A877 A8CE-A8CF A92F A9C8-A9C9 AA5D-AA5F AAF0-AAF1 ABEB FE12 FE15-FE16 FE56-FE57 FF01 FF1F
  FF61 10A56-10A57 10F55-10F59 10F86-10F89 11047-11048 110BE-110C1 11141-11143 111C5-111C6 111CD
  111DE-111DF 11238-11239 1123B-1123C 112A9 113D4-113D5 1144B-1144C 115C2-115C3 115C9-115D7
  11641-11642 1173C-1173E 11944 11946 11A42-11A43 11A9B-11A9C 11C41-11C42 11EF7-11EF8 11F43-11F44
  16A6E-16A6F 16AF5 16B37-16B38 16B44 16D6E-16D6F 16E98 1BC9F 1DA88"

/-- Marks around what is quoted or bracketed. -/
def closings : Thunk Ranges := table
  "22 27-29 5B 5D 7B 7D AB BB F3A-F3D 169B-169C 2018-201F 2039-203A 2045-2046 207D-207E 208D-208E
  2308-230B 2329-232A 275B-2760 2768-2775 27C5-27C6 27E6-27EF 2983-2998 29D8-29DB 29FC-29FD
  2E00-2E0D 2E1C-2E1D 2E20-2E29 2E42 2E55-2E5C 3008-3011 3014-301B 301D-301F FD3E-FD3F FE17-FE18
  FE35-FE44 FE47-FE48 FE59-FE5E FF08-FF09 FF3B FF3D FF5B FF5D FF5F-FF60 FF62-FF63 1F676-1F678"

/-- The places of a character in sentences. -/
def sentenceBreaks : List (List String × Thunk Ranges) :=
  [(["aterm", "at"], fullStops),
   (["close", "cl"], closings),
   (["cr"], carriageReturn),
   (["extend", "ex"], sentenceExtensions),
   (["format", "fo"], sentenceFormats),
   (["lf"], lineFeed),
   (["lower", "lo"], sentenceSmall),
   (["numeric", "nu"], sentenceDigits),
   (["oletter", "le"], sentenceLetters),
   (["scontinue", "sc"], continuations),
   (["sep", "se"], table "85 2028-2029"),
   (["sp"], sentenceBlanks),
   (["sterm", "st"], sentenceEnds),
   (["upper", "up"], sentenceCapitals)]

end Break
end SafeMarkup.Text

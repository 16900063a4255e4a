import MessageCatalog.Unicode.Property
import MessageCatalog.Unicode.Script

/-! # Boundaries in text

The parts that characters play in finding the bounds of user-perceived characters, words and
sentences. Most of them are derived from categories, scripts and properties, with exceptions in the
notation of `CharSet.ofText`.
-/

namespace MessageCatalog.Unicode

/-- Syllables written with a single character. -/
def hangulSyllables : CharSet := .range 0xAC00 0xD7A3

/-- Those syllables that have no final consonant. -/
def openSyllables : CharSet :=
  .ofRanges ((List.range 399).map fun i => (0xAC00 + 28 * i, 0xAC00 + 28 * i))

def zeroWidthJoiner : CharSet := .range 0x200D 0x200D

/-- Marks that take a place of their own. -/
def spacingMarks : CharSet := categorySet "mc"

/-- Marks and other characters that stick to the character before them. -/
def attached : CharSet := graphemeExtend.union spacingMarks

def formats : CharSet := categorySet "cf"

/-- The characters that play a part in user-perceived characters, by the normalized name of the
part. -/
def graphemeBreak? : String → Option CharSet
  | "cr" => some (.ofText "D")
  | "lf" => some (.ofText "A")
  | "control" | "cn" =>
    some (((categoryUnion ["zl", "zp", "cc", "cf"]).union
      ((listed "defaultignorablecodepoint").inter unassigned)).diff (.ofText
      "A D 600-605 6DD 70F 890-891 8E2 200C-200D 110BD 110CD E0020-E007F"))
  | "extend" | "ex" => some (graphemeExtend.union (listed "emojimodifier"))
  | "l" => some (.ofText "1100-115F A960-A97C")
  | "lv" => some openSyllables
  | "lvt" => some (hangulSyllables.diff openSyllables)
  | "prepend" | "pp" => some (.ofText
      "600-605 6DD 70F 890-891 8E2 D4E 110BD 110CD 111C2-111C3 113D1 1193F 11941 11A3A
       11A84-11A89 11D46 11F02")
  | "regionalindicator" | "ri" => some (listed "regionalindicator")
  | "spacingmark" | "sm" =>
    some (((spacingMarks.diff graphemeExtend).diff (.ofText
      "102B-102C 1038 1062-1064 1067-106D 1083 1087-108C 108F 109A-109C 1A61 1A63-1A64 AA7B AA7D
       11720-11721")).union
      (.ofText "E33 EB3"))
  | "t" => some (.ofText "11A8-11FF D7CB-D7FB")
  | "v" => some (.ofText "1160-11A7 D7B0-D7C6 16D63 16D67-16D6A")
  | "zwj" => some zeroWidthJoiner
  | _ => none

def hebrewLetters : CharSet := ((script? "hebrew").getD .empty).inter (categorySet "lo")

/-- The characters that play a part in words, by the normalized name of the part. -/
def wordBreak? : String → Option CharSet
  | "cr" => some (.ofText "D")
  | "lf" => some (.ofText "A")
  | "newline" | "nl" => some (.ofText "B-C 85 2028-2029")
  | "doublequote" | "dq" => some (.ofText "22")
  | "singlequote" | "sq" => some (.ofText "27")
  | "hebrewletter" | "hl" => some hebrewLetters
  | "extend" => some (attached.union (listed "emojimodifier"))
  | "format" | "fo" =>
    some (formats.diff (.ofText
      "600-605 6DD 70F 890-891 8E2 200B-200D 110BD 110CD E0020-E007F"))
  | "katakana" | "ka" =>
    some (((script? "katakana").getD .empty).union (.ofText "3031-3035 309B-309C 30A0 30FC FF70"))
  | "aletter" | "le" =>
    some (((alphabetic.diff (.ofRanges (([listed "ideographic", (script? "katakana").getD .empty,
        (script? "hiragana").getD .empty, hebrewLetters, attached].map CharSet.toList).flatten))).diff
      (.ofText
      "E01-E30 E32-E33 E40-E46 E81-E82 E84 E86-E8A E8C-EA3 EA5 EA7-EB0 EB2-EB3 EBD EC0-EC4 EC6
       EDC-EDF 1000-102A 103F 1050-1055 105A-105D 1061 1065-1066 106E-1070 1075-1081 108E
       1780-17B3 17D7 17DC 1950-196D 1970-1974 1980-19AB 19B0-19C9 1A20-1A54 1AA7 3031-3035 30FC
       A9E0-A9E4 A9E6-A9EF A9FA-A9FE AA60-AA76 AA7A AA7E-AAAF AAB1 AAB5-AAB6 AAB9-AABD AAC0 AAC2
       AADB-AADD FF70 11700-1171A 11740-11746")).union (.ofText
      "2C2-2C5 2D2-2D7 2DE-2DF 2E5-2EB 2ED 2EF-2FF 55A-55C 55E 58A 5F3 70F A708-A716 A720-A721
       A789-A78A AB5B"))
  | "midletter" | "ml" => some (.ofText "3A B7 387 55F 5F4 2027 FE13 FE55 FF1A")
  | "midnum" | "mn" =>
    some (.ofText "2C 3B 37E 589 60C-60D 66C 7F8 2044 FE50 FE54 FF0C FF1B")
  | "midnumlet" | "mb" => some (.ofText "2E 2018-2019 2024 FE52 FF07 FF0E")
  | "numeric" | "nu" =>
    some (decimalDigits.union (.ofText
      "600-605 66B 6DD 890-891 8E2 19DA 110BD 110CD"))
  | "extendnumlet" | "ex" => some (connectors.union (.ofText "202F"))
  | "wsegspace" => some (.ofText "20 1680 2000-2006 2008-200A 205F 3000")
  | "regionalindicator" | "ri" => some (listed "regionalindicator")
  | "zwj" => some zeroWidthJoiner
  | _ => none

/-- Georgian letters, whose upper case is for whole words and does not begin sentences. -/
def georgianPairs : CharSet := .ofText "10D0-10FA 10FD-10FF 1C90-1CBA 1CBD-1CBF"

/-- The characters that play a part in sentences, by the normalized name of the part. -/
def sentenceBreak? : String → Option CharSet
  | "cr" => some (.ofText "D")
  | "lf" => some (.ofText "A")
  | "sep" | "se" => some (.ofText "85 2028-2029")
  | "sp" => some (whiteSpace.diff (.ofText "A D 85 2028-2029"))
  | "extend" | "ex" => some (attached.union zeroWidthJoiner)
  | "format" | "fo" =>
    some (formats.diff (.ofText
      "600-605 6DD 890-891 8E2 200C-200D 110BD 110CD E0020-E007F"))
  | "lower" | "lo" => some ((lowercase.diff graphemeExtend).diff georgianPairs)
  | "upper" | "up" => some ((titleLetters.union uppercase).diff georgianPairs)
  | "oletter" | "le" =>
    some (((alphabetic.diff (.ofRanges (([lowercase, uppercase, titleLetters, attached].map
      CharSet.toList).flatten))).union georgianPairs).union (.ofText "5F3"))
  | "numeric" | "nu" =>
    some (decimalDigits.union (.ofText
      "600-605 66B-66C 6DD 890-891 8E2 19DA 110BD 110CD"))
  | "aterm" | "at" => some (.ofText "2E 2024 FE52 FF0E")
  | "sterm" | "st" => some ((listed "sentenceterminal").diff (.ofText "2E 2024 FE52 FF0E"))
  | "scontinue" | "sc" => some (.ofText
      "2C-2D 3A-3B 37E 55D 60C-60D 7F8 1802 1808 2013-2014 3001 FE10-FE11 FE13-FE14 FE31-FE32
       FE50-FE51 FE54-FE55 FE58 FE63 FF0C-FF0D FF1A-FF1B FF64")
  | "close" | "cl" =>
    some (((categoryUnion ["ps", "pe", "pi", "pf"]).union (listed "quotationmark")).diff (.ofText
      "FF02 FF07") |>.union (.ofText
      "275B-2760 2E00-2E01 2E06-2E08 2E0B 1F676-1F678"))
  | _ => none

end MessageCatalog.Unicode

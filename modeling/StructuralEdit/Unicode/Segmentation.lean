import StructuralEdit.Unicode.Property
import StructuralEdit.Unicode.Script
/-!
The parts that characters play where text is split into what a reader takes for one character, into
words, and into sentences. Each of the three properties puts a character into one class at most.
-/
namespace StructuralEdit.Segmentation

open CharSet (ofTable ofCategories)

/-! ### Sets that several classes are made of -/

def numberSigns : CharSet := ofTable "600-605 6DD 890-891 8E2 110BD 110CD"

def regionalIndicator : CharSet := Property.regionalIndicator

def joiner : CharSet := ofTable "200D"

def attached : CharSet := Property.graphemeExtend.union (ofCategories [.mc])

def unspaced : CharSet := ofTable
  "E01-E30 E32-E33 E40-E46 E81-E82 E84 E86-E8A E8C-EA3 EA5 EA7-EB0 EB2-EB3 EBD EC0-EC4 EC6 EDC-EDF
  1000-102A 103F 1050-1055 105A-105D 1061 1065-1066 106E-1070 1075-1081 108E 1780-17B3 17D7 17DC
  1950-196D 1970-1974 1980-19AB 19B0-19C9 1A20-1A54 1AA7 A9E0-A9E4 A9E6-A9EF A9FA-A9FE AA60-AA76
  AA7A AA7E-AAAF AAB1 AAB5-AAB6 AAB9-AABD AAC0 AAC2 AADB-AADD 11700-1171A 11740-11746"

def scriptMembers (name : String) : CharSet := (Script.named? name).elim .empty Script.members

/-! ### Grapheme clusters -/

namespace Grapheme

def prepend : CharSet :=
  Property.prependedConcatenationMark.union
    (ofTable "70F D4E 111C2-111C3 113D1 1193F 11941 11A3A 11A84-11A89 11D46 11F02")

def extend : CharSet := Property.graphemeExtend.union Property.emojiModifier

def control : CharSet :=
  ((ofCategories [.zl, .zp, .cc, .cf]).union
    (CharSet.unassigned.inter Property.defaultIgnorable)).diff
      ((ofTable "A D 200C-200D").union (prepend.union Property.graphemeExtend))

def spacingMark : CharSet :=
  (((ofCategories [.mc]).union (ofTable "E33 EB3")).diff extend).diff
    (ofTable "102B-102C 1038 1062-1064 1067-106D 1083 1087-108C 108F 109A-109C 1A61 1A63-1A64
      AA7B AA7D 11720-11721")

def vowelJamo : CharSet := ofTable "1160-11A7 D7B0-D7C6 16D63 16D67-16D6A"

def syllables : CharSet := ofTable "AC00-D7A3"

/-- Hangul syllables without a final consonant: every 28th. -/
def openSyllables : CharSet :=
  .ofRanges ((List.range 399).map fun k => (0xAC00 + 28 * k, 0xAC00 + 28 * k))

def named? : String → Option CharSet
  | "cn" | "control" => some control
  | "cr" => some (ofTable "D")
  | "ex" | "extend" => some extend
  | "l" => some (ofTable "1100-115F A960-A97C")
  | "lf" => some (ofTable "A")
  | "lv" => some openSyllables
  | "lvt" => some (syllables.diff openSyllables)
  | "pp" | "prepend" => some prepend
  | "ri" | "regionalindicator" => some regionalIndicator
  | "sm" | "spacingmark" => some spacingMark
  | "t" => some (ofTable "11A8-11FF D7CB-D7FB")
  | "v" => some vowelJamo
  | "zwj" => some joiner
  | _ => none

end Grapheme

/-! ### Words -/

namespace Word

def extend : CharSet := (attached.union Property.emojiModifier).diff joiner

def format : CharSet :=
  ((ofCategories [.cf]).diff (ofTable "70F 200B-200D")).diff
    (numberSigns.union Property.graphemeExtend)

def katakana : CharSet :=
  (scriptMembers "katakana").union (ofTable "3031-3035 309B-309C 30A0 30FC FF70")

def hebrewLetter : CharSet := (scriptMembers "hebrew").inter (ofCategories [.lo])

def letter : CharSet :=
  (((Property.alphabetic.union
    (ofTable "2C2-2C5 2D2-2D7 2DE-2DF 2E5-2EB 2ED 2EF-2FF 55A-55C 55E 58A 5F3 70F A708-A716
      A720-A721 A789-A78A AB5B")).diff
    (Property.ideographic.union (katakana.union (scriptMembers "hiragana")))).diff
    (unspaced.union hebrewLetter)).diff (extend.union joiner)

def numeric : CharSet := ((ofCategories [.nd]).union numberSigns).union (ofTable "66B 19DA")

def named? : String → Option CharSet
  | "cr" => some (ofTable "D")
  | "dq" | "doublequote" => some (ofTable "22")
  | "ex" | "extendnumlet" => some ((ofCategories [.pc]).union (ofTable "202F"))
  | "extend" => some extend
  | "fo" | "format" => some format
  | "hl" | "hebrewletter" => some hebrewLetter
  | "ka" | "katakana" => some katakana
  | "le" | "aletter" => some letter
  | "lf" => some (ofTable "A")
  | "mb" | "midnumlet" => some (ofTable "2E 2018-2019 2024 FE52 FF07 FF0E")
  | "ml" | "midletter" => some (ofTable "3A B7 387 55F 5F4 2027 FE13 FE55 FF1A")
  | "mn" | "midnum" =>
    some (ofTable "2C 3B 37E 589 60C-60D 66C 7F8 2044 FE50 FE54 FF0C FF1B")
  | "nl" | "newline" => some (ofTable "B-C 85 2028-2029")
  | "nu" | "numeric" => some numeric
  | "ri" | "regionalindicator" => some regionalIndicator
  | "sq" | "singlequote" => some (ofTable "27")
  | "wsegspace" => some ((ofCategories [.zs]).diff (ofTable "A0 2007 202F"))
  | "zwj" => some joiner
  | _ => none

end Word

/-! ### Sentences -/

namespace Sentence

def extend : CharSet := attached.union joiner

def format : CharSet :=
  ((ofCategories [.cf]).diff (ofTable "200C-200D")).diff
    (numberSigns.union Property.graphemeExtend)

def lower : CharSet :=
  Property.lowercase.diff (Property.graphemeExtend.union (ofTable "10D0-10FA 10FD-10FF"))

def upper : CharSet :=
  (ofCategories [.lt]).union (Property.uppercase.diff (ofTable "1C90-1CBA 1CBD-1CBF"))

def otherLetter : CharSet :=
  (Property.alphabetic.union (ofTable "5F3")).diff (lower.union (upper.union extend))

def fullStop : CharSet := ofTable "2E 2024 FE52 FF0E"

def terminal : CharSet := Property.sentenceTerminal.diff fullStop

def close : CharSet :=
  ((ofCategories [.ps, .pe, .pi, .pf]).union
    (ofTable "22 27 275B-2760 2E00-2E01 2E06-2E08 2E0B 1F676-1F678")).diff terminal

def named? : String → Option CharSet
  | "at" | "aterm" => some fullStop
  | "cl" | "close" => some close
  | "cr" => some (ofTable "D")
  | "ex" | "extend" => some extend
  | "fo" | "format" => some format
  | "le" | "oletter" => some otherLetter
  | "lf" => some (ofTable "A")
  | "lo" | "lower" => some lower
  | "nu" | "numeric" => some (Word.numeric.union (ofTable "66C"))
  | "sc" | "scontinue" =>
    some (ofTable "2C-2D 3A-3B 37E 55D 60C-60D 7F8 1802 1808 2013-2014 3001 FE10-FE11 FE13-FE14
      FE31-FE32 FE50-FE51 FE54-FE55 FE58 FE63 FF0C-FF0D FF1A-FF1B FF64")
  | "se" | "sep" => some (ofTable "85 2028-2029")
  | "sp" => some (Property.whiteSpace.diff (ofTable "A D 85 2028-2029"))
  | "st" | "sterm" => some terminal
  | "up" | "upper" => some upper
  | _ => none

end Sentence

end StructuralEdit.Segmentation

import ReleaseGate.Unicode.Property

/-!
# Boundaries in texts

The classes of characters that the boundaries between graphemes, words and sentences are told by, in
Unicode 15. Characters that no rule names have no class.
-/

namespace ReleaseGate.Unicode

/-- A class of characters under its names. -/
structure BoundaryClass where
  names : List String
  holds : Char → Bool

/-- A character by its code point. -/
def isCode (n : Nat) (c : Char) : Bool := c.toNat == n

/-- The characters that stand for regions in pairs. -/
def isRegional (c : Char) : Bool := 0x1F1E6 ≤ c.toNat && c.toNat ≤ 0x1F1FF

/-- The characters that give an emoji its colour. -/
def isEmojiModifier (c : Char) : Bool := 0x1F3FB ≤ c.toNat && c.toNat ≤ 0x1F3FF

/-! ### Graphemes -/

/-- Hangul syllables. -/
def isSyllable (c : Char) : Bool := 0xAC00 ≤ c.toNat && c.toNat ≤ 0xD7A3

/-- A Hangul syllable without a consonant at its end. -/
def isOpenSyllable (c : Char) : Bool := isSyllable c && (c.toNat - 0xAC00) % 28 == 0

/-- Spacing marks that do not belong to the grapheme before them. -/
def freeSpacingMark : Ranges := Ranges.ofHex
  "102B-102C 1038 1062-1064 1067-106D 1083 1087-108C 108F 109A-109C 1A61 1A63-1A64 AA7B AA7D
  11720-11721"

/-- The classes of graphemes. -/
def graphemeClasses : List BoundaryClass :=
  [⟨["cn", "control"], (Ranges.ofHex
     "0-9 B-C E-1F 7F-9F AD 61C 180E 200B 200E-200F 2028-202E 2060-206F FEFF FFF0-FFFB 13430-1343F
     1BCA0-1BCA3 1D173-1D17A E0000-E001F E0080-E00FF E01F0-E0FFF").mem⟩,
   ⟨["cr"], isCode 0xD⟩,
   ⟨["ex", "extend"], fun c => isGraphemeExtend c || isEmojiModifier c⟩,
   ⟨["l"], (Ranges.ofHex "1100-115F A960-A97C").mem⟩,
   ⟨["lf"], isCode 0xA⟩,
   ⟨["lv"], isOpenSyllable⟩,
   ⟨["lvt"], fun c => isSyllable c && !isOpenSyllable c⟩,
   ⟨["pp", "prepend"], (Ranges.ofHex
     "600-605 6DD 70F 890-891 8E2 D4E 110BD 110CD 111C2-111C3 1193F 11941 11A3A 11A84-11A89 11D46
     11F02").mem⟩,
   ⟨["ri", "regionalindicator"], isRegional⟩,
   ⟨["sm", "spacingmark"], fun c =>
     (Category.mc.mem c && !isGraphemeExtend c && !freeSpacingMark.mem c) ||
       isCode 0xE33 c || isCode 0xEB3 c⟩,
   ⟨["t"], (Ranges.ofHex "11A8-11FF D7CB-D7FB").mem⟩,
   ⟨["v"], (Ranges.ofHex "1160-11A7 D7B0-D7C6").mem⟩,
   ⟨["zwj"], isCode 0x200D⟩]

/-! ### Words -/

/-- Letters of scripts that are written without spaces between words, apart from ideographs. -/
def unspacedLetter : Ranges := Ranges.ofHex
  "E01-E30 E32-E33 E40-E46 E81-E82 E84 E86-E8A E8C-EA3 EA5 EA7-EB0 EB2-EB3 EBD EC0-EC4 EC6
  EDC-EDF 1000-102A 103F 1050-1055 105A-105D 1061 1065-1066 106E-1070 1075-1081 108E 1780-17B3
  17D7 17DC 1950-196D 1970-1974 1980-19AB 19B0-19C9 1A20-1A54 1AA7 3041-3096 309D-309F A9E0-A9E4
  A9E6-A9EF A9FA-A9FE AA60-AA76 AA7A AA7E-AAAF AAB1 AAB5-AAB6 AAB9-AABD AAC0 AAC2 AADB-AADD
  11700-1171A 11740-11746 1B001-1B11F 1B132 1B150-1B152"

/-- Letters of words that are not alphabetic. -/
def otherWordLetter : Ranges := Ranges.ofHex
  "2C2-2C5 2D2-2D7 2DE-2DF 2E5-2EB 2ED 2EF-2FF 55A-55C 55E 58A 5F3 A708-A716 A720-A721 A789-A78A
  AB5B"

/-- Hebrew letters. -/
def hebrewLetter : Ranges := Ranges.ofHex
  "5D0-5EA 5EF-5F2 FB1D FB1F-FB28 FB2A-FB36 FB38-FB3C FB3E FB40-FB41 FB43-FB44 FB46-FB4F"

/-- Katakana, and what is written with it. -/
def katakana : Ranges := Ranges.ofHex
  "3031-3035 309B-309C 30A0-30FA 30FC-30FF 31F0-31FF 32D0-32FE 3300-3357 FF66-FF9D 1AFF0-1AFF3
  1AFF5-1AFFB 1AFFD-1AFFE 1B000 1B120-1B122 1B155 1B164-1B167"

/-- A character that belongs to the letter before it. -/
def isWordExtend (c : Char) : Bool :=
  isGraphemeExtend c || Category.mc.mem c || isEmojiModifier c

/-- A letter of words between spaces. -/
def isWordLetter (c : Char) : Bool :=
  (isAlphabetic c && !isWordExtend c && !ideographic.mem c && !unspacedLetter.mem c &&
    !hebrewLetter.mem c && !katakana.mem c) || otherWordLetter.mem c

/-- The classes of words. -/
def wordClasses : List BoundaryClass :=
  [⟨["le", "aletter"], isWordLetter⟩,
   ⟨["cr"], isCode 0xD⟩,
   ⟨["dq", "doublequote"], isCode 0x22⟩,
   ⟨["extend"], isWordExtend⟩,
   ⟨["ex", "extendnumlet"], (Ranges.ofHex "5F 202F 203F-2040 2054 FE33-FE34 FE4D-FE4F FF3F").mem⟩,
   ⟨["fo", "format"], fun c =>
     Category.cf.mem c && !(Ranges.ofHex "200B-200D E0020-E007F").mem c⟩,
   ⟨["hl", "hebrewletter"], hebrewLetter.mem⟩,
   ⟨["ka", "katakana"], katakana.mem⟩,
   ⟨["lf"], isCode 0xA⟩,
   ⟨["ml", "midletter"], (Ranges.ofHex "3A B7 387 55F 5F4 2027 FE13 FE55 FF1A").mem⟩,
   ⟨["mn", "midnum"], (Ranges.ofHex
     "2C 3B 37E 589 60C-60D 66C 7F8 2044 FE10 FE14 FE50 FE54 FF0C FF1B").mem⟩,
   ⟨["mb", "midnumlet"], (Ranges.ofHex "2E 2018-2019 2024 FE52 FF07 FF0E").mem⟩,
   ⟨["nl", "newline"], (Ranges.ofHex "B-C 85 2028-2029").mem⟩,
   ⟨["nu", "numeric"], fun c => Category.nd.mem c || isCode 0x66B c⟩,
   ⟨["ri", "regionalindicator"], isRegional⟩,
   ⟨["sq", "singlequote"], isCode 0x27⟩,
   ⟨["wsegspace"], (Ranges.ofHex "20 1680 2000-2006 2008-200A 205F 3000").mem⟩,
   ⟨["zwj"], isCode 0x200D⟩]

/-! ### Sentences -/

/-- A character that belongs to the one before it. -/
def isSentenceExtend (c : Char) : Bool :=
  isGraphemeExtend c || Category.mc.mem c || isCode 0x200D c

/-- The Georgian letters, which do not tell where a sentence starts. -/
def georgianLetter : Ranges := Ranges.ofHex "10D0-10FA 10FD-10FF 1C90-1CBA 1CBD-1CBF"

/-- A small letter of a sentence. -/
def isSentenceLower (c : Char) : Bool :=
  isLowercase c && !isGraphemeExtend c && !georgianLetter.mem c

/-- A capital letter of a sentence. -/
def isSentenceUpper (c : Char) : Bool :=
  (isUppercase c || Category.lt.mem c) && !georgianLetter.mem c

/-- The ends of paragraphs, apart from carriage return and line feed. -/
def paragraphEnd : Ranges := Ranges.ofHex "85 2028-2029"

/-- Marks that open or close a quotation, though no category says so. -/
def otherQuotation : Ranges := Ranges.ofHex "22 27 275B-2760 2E00-2E01 2E06-2E08 2E0B 1F676-1F678"

/-- The classes of sentences. -/
def sentenceClasses : List BoundaryClass :=
  [⟨["at", "aterm"], (Ranges.ofHex "2E 2024 FE52 FF0E").mem⟩,
   ⟨["cl", "close"], fun c => inCategories [.ps, .pe, .pi, .pf] c || otherQuotation.mem c⟩,
   ⟨["cr"], isCode 0xD⟩,
   ⟨["ex", "extend"], isSentenceExtend⟩,
   ⟨["fo", "format"], fun c =>
     Category.cf.mem c && !(Ranges.ofHex "200C-200D E0020-E007F").mem c⟩,
   ⟨["le", "oletter"], fun c =>
     (isAlphabetic c && !isSentenceLower c && !isSentenceUpper c && !isSentenceExtend c) ||
       isCode 0x5F3 c⟩,
   ⟨["lf"], isCode 0xA⟩,
   ⟨["lo", "lower"], isSentenceLower⟩,
   ⟨["nu", "numeric"], fun c => Category.nd.mem c || isCode 0x66B c || isCode 0x66C c⟩,
   ⟨["sc", "scontinue"], (Ranges.ofHex
     "2C-2D 3A 55D 60C-60D 7F8 1802 1808 2013-2014 3001 FE10-FE11 FE13 FE31-FE32 FE50-FE51 FE55 FE58
     FE63 FF0C-FF0D FF1A FF64").mem⟩,
   ⟨["se", "sep"], paragraphEnd.mem⟩,
   ⟨["sp"], fun c =>
     Text.isSpace c && !isCode 0xA c && !isCode 0xD c && !paragraphEnd.mem c⟩,
   ⟨["st", "sterm"], fun c =>
     sentenceTerminal.mem c && !isCode 0x2E c && !isCode 0xFE52 c && !isCode 0xFF0E c⟩,
   ⟨["up", "upper"], isSentenceUpper⟩]

/-- The class of a list that goes by a name. -/
def boundaryClass? (classes : List BoundaryClass) (name : String) : Option (Char → Bool) :=
  (classes.find? (·.names.contains name)).map BoundaryClass.holds

end ReleaseGate.Unicode

import Dalvik.Text.Property.CaseChange
import Dalvik.Text.Property.Emoji
import Dalvik.Text.Property.Mark
import Dalvik.Text.Property.Sign
import Dalvik.Text.Script

/-!
# Where text may be broken

Three classifications of characters: by what belongs to one character as a reader sees it, by the parts of words, and
by the parts of sentences. In each a character is in one class at most.
-/

namespace Dalvik.Text
open Category

/-- The characters of the script of the given name. -/
def ofScript (name : String) : CharSet := (scripts.get? name).getD .empty

def joiner : CharSet := .ofText "200d"

/-- The marks over numbers, which count as digits. -/
def numberMark : CharSet := prependedConcatenationMark.diff (.ofText "70f")

/-! ### Characters as a reader sees them -/

namespace GraphemeBreak

def extend : CharSet := .ofSets [graphemeExtend, emojiModifier]

/-- Controls, separators of lines, and what is not shown, save the joiners and the ends of lines. -/
def control : CharSet :=
  (CharSet.ofSets [lineSeparator, paragraphSeparator, Category.control, format, defaultIgnorable.diff assigned]).diff
    (.ofSets [prependedConcatenationMark, extend, .ofText "a d 200c-200d"])

/-- The consonants that are written above or before the next one. -/
def leading : CharSet := .ofText "d4e 111c2-111c3 113d1 1193f 11941 11a3a 11a84-11a89 11d46 11f02"

/-- The spacing marks that stand apart from the character before them. -/
def apart : CharSet := .ofText
  "102b-102c 1038 1062-1064 1067-106d 1083 1087-108c 108f 109a-109c 1a61 1a63-1a64 aa7b aa7d 11720-11721"

def spacing : CharSet := ((spacingMark.union (.ofText "e33 eb3")).diff extend).diff apart

/-- The syllables of the Hangul script that have no consonant at their end. -/
def openSyllable : CharSet := .ofText "ac00-d788/1c"

def classes : NamedSets := [
  (["cr"], .single '\r'),
  (["lf"], .single '\n'),
  (["control", "cn"], control),
  (["extend", "ex"], extend),
  (["zwj"], joiner),
  (["regionalindicator", "ri"], regionalIndicator),
  (["prepend", "pp"], prependedConcatenationMark.union leading),
  (["spacingmark", "sm"], spacing),
  (["l"], .ofText "1100-115f a960-a97c"),
  (["v"], .ofText "1160-11a7 d7b0-d7c6 16d63 16d67-16d6a"),
  (["t"], .ofText "11a8-11ff d7cb-d7fb"),
  (["lv"], openSyllable),
  (["lvt"], (CharSet.ofText "ac00-d7a3").diff openSyllable)]

end GraphemeBreak

/-! ### Words -/

namespace WordBreak

def extend : CharSet := (GraphemeBreak.extend.union spacingMark).diff joiner

def katakana : CharSet := ((ofScript "katakana").union (.ofText "3031-3035 309b-309c 30a0 30fc ff70")).diff extend

def hebrew : CharSet := (ofScript "hebrew").inter otherLetter

/-- The characters of the scripts that put no blanks between words. -/
def unspaced : CharSet := .ofText
  "e01-e3a e40-e4e e81-e82 e84 e86-e8a e8c-ea3 ea5 ea7-ebd ec0-ec4 ec6 ec8-ece edc-edf 1000-103f 1050-108f
  109a-109f 1780-17d3 17d7 17dc-17dd 1950-196d 1970-1974 1980-19ab 19b0-19c9 19da 19de-19df 1a20-1a5e
  1a60-1a7c 1aa0-1aad a9e0-a9ef a9fa-a9fe aa60-aac2 aadb-aadf 11700-1171a 1171d-1172b 1173a-1173b 1173f-11746"

/-- The signs that count as letters of words. -/
def otherLetters : CharSet := .ofText
  "2c2-2c5 2d2-2d7 2de-2df 2e5-2eb 2ed 2ef-2ff 55a-55c 55e 58a 5f3 70f a708-a716 a720-a721 a789-a78a ab5b"

def letter : CharSet :=
  (alphabetic.union otherLetters).diff
    (.ofSets [ideographic, katakana, unspaced, ofScript "hiragana", extend, hebrew])

def classes : NamedSets := [
  (["cr"], .single '\r'),
  (["lf"], .single '\n'),
  (["newline", "nl"], .ofText "b-c 85 2028-2029"),
  (["extend"], extend),
  (["zwj"], joiner),
  (["format", "fo"], format.diff (.ofSets [graphemeExtend, prependedConcatenationMark, .ofText "200b-200d"])),
  (["regionalindicator", "ri"], regionalIndicator),
  (["katakana", "ka"], katakana),
  (["hebrewletter", "hl"], hebrew),
  (["aletter", "le"], letter),
  (["singlequote", "sq"], .ofText "27"),
  (["doublequote", "dq"], .ofText "22"),
  (["midnumlet", "mb"], .ofText "2e 2018-2019 2024 fe52 ff07 ff0e"),
  (["midletter", "ml"], .ofText "3a b7 387 55f 5f4 2027 fe13 fe55 ff1a"),
  (["midnum", "mn"], .ofText "2c 3b 37e 589 60c-60d 66c 7f8 2044 fe10 fe14 fe50 fe54 ff0c ff1b"),
  (["numeric", "nu"], .ofSets [decimalNumber, numberMark, .ofText "66b"]),
  (["extendnumlet", "ex"], connectorPunctuation.union (.ofText "202f")),
  (["wsegspace"], .ofText "20 1680 2000-2006 2008-200a 205f 3000")]

end WordBreak

/-! ### Sentences -/

namespace SentenceBreak

def extend : CharSet := .ofSets [graphemeExtend, spacingMark, joiner]

/-- The Georgian letters, whose case does not show where a sentence starts. -/
def georgian : CharSet := .ofText "10d0-10fa 10fd-10ff 1c90-1cba 1cbd-1cbf"

def lower : CharSet := lowercase.diff (graphemeExtend.union georgian)

def upper : CharSet := (uppercase.union titlecaseLetter).diff georgian

/-- The full stops, which may also end an abbreviation. -/
def fullStop : CharSet := .ofText "2e 2024 fe52 ff0e"

/-- The quotation marks for both ends. -/
def evenQuote : CharSet := .ofText "22 27 275b-2760 2e00-2e01 2e06-2e08 2e0b 1f676-1f678"

def classes : NamedSets := [
  (["cr"], .single '\r'),
  (["lf"], .single '\n'),
  (["sep", "se"], .ofText "85 2028-2029"),
  (["extend", "ex"], extend),
  (["format", "fo"], format.diff (.ofSets [graphemeExtend, numberMark, .ofText "200c-200d"])),
  (["sp"], blank.diff (.ofText "a d 85 2028-2029")),
  (["lower", "lo"], lower),
  (["upper", "up"], upper),
  (["oletter", "le"], (alphabetic.union (.ofText "5f3")).diff (.ofSets [lower, upper, extend])),
  (["numeric", "nu"], .ofSets [decimalNumber, numberMark, .ofText "66b-66c"]),
  (["aterm", "at"], fullStop),
  (["sterm", "st"], sentenceTerminal.diff fullStop),
  (["close", "cl"], .ofSets [openPunctuation, closePunctuation, initialPunctuation, finalPunctuation, evenQuote]),
  (["scontinue", "sc"], .ofText
    "2c-2d 3a-3b 37e 55d 60c-60d 7f8 1802 1808 2013-2014 3001 fe10-fe11 fe13-fe14 fe31-fe32 fe50-fe51 fe54-fe55
    fe58 fe63 ff0c-ff0d ff1a-ff1b ff64")]

end SentenceBreak
end Dalvik.Text

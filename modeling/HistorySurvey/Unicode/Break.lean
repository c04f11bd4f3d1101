import HistorySurvey.Unicode.Category
import HistorySurvey.Unicode.Property
import HistorySurvey.Unicode.Script

/-! Which part of a grapheme, a word or a sentence a character can be (Unicode 15.1). The tables have
no entry for characters that are no particular part. -/
namespace HistorySurvey.Unicode.Break

def having (property : String) : CharSet := (Property.find? property).getD CharSet.empty

def writtenIn (script : String) : CharSet := (Script.find? script).getD CharSet.empty

def returns : CharSet := CharSet.ofText "d"

def feeds : CharSet := CharSet.ofText "a"

def joiner : CharSet := CharSet.ofText "200d"

def regional : CharSet := having "regionalindicator"

/-- Marks that belong to the character before them. -/
def marks : CharSet := CharSet.unions [Property.graphemeExtend, Category.union ["mc"]]

/-- Characters of formats that neither extend nor join others. -/
def formats : CharSet :=
  (Category.union ["cf"]).diff (CharSet.unions [Property.graphemeExtend, joiner])

/-! Graphemes. -/

def graphemeExtend : CharSet := CharSet.unions [Property.graphemeExtend, having "emojimodifier"]

def prepended : CharSet := CharSet.unions [having "prependedconcatenationmark",
  CharSet.ofText "d4e 111c2-111c3 1193f 11941 11a3a 11a84-11a89 11d46 11f02"]

def controls : CharSet :=
  let unassigned := (having "defaultignorablecodepoint").diff Category.assigned
  (CharSet.unions [Category.union ["zl", "zp", "cc"], formats, unassigned]).diff
    (CharSet.unions [returns, feeds, having "prependedconcatenationmark"])

def spacingMarks : CharSet :=
  (CharSet.unions [Category.union ["mc"], CharSet.ofText "e33 eb3"]).diff
    (CharSet.unions [graphemeExtend, CharSet.ofText
      "102b-102c 1038 1062-1064 1067-106d 1083 1087-108c 108f 109a-109c 1a61 1a63-1a64 aa7b aa7d
       11720-11721"])

/-- Syllables without a final consonant. -/
def openSyllables : CharSet :=
  CharSet.ofCodePoints ((List.range 399).map fun i => 0xac00 + 28 * i)

def graphemes : List (List String × CharSet) := [
  (["cn", "control"], controls),
  (["cr"], returns),
  (["ex", "extend"], graphemeExtend),
  (["l"], CharSet.ofText "1100-115f a960-a97c"),
  (["lf"], feeds),
  (["lv"], openSyllables),
  (["lvt"], (CharSet.ofText "ac00-d7a3").diff openSyllables),
  (["pp", "prepend"], prepended),
  (["ri", "regionalindicator"], regional),
  (["sm", "spacingmark"], spacingMarks),
  (["t"], CharSet.ofText "11a8-11ff d7cb-d7fb"),
  (["v"], CharSet.ofText "1160-11a7 d7b0-d7c6"),
  (["zwj"], joiner)]

/-! Words. -/

def wordExtend : CharSet := CharSet.unions [marks, having "emojimodifier"]

def katakana : CharSet :=
  CharSet.unions [writtenIn "katakana", CharSet.ofText "3031-3035 309b-309c 30a0 30fc ff70"]

def hebrewLetters : CharSet := (writtenIn "hebrew").inter (Category.union ["lo"])

/-- Characters of scripts whose words are not told apart by blanks. -/
def unspaced : CharSet := CharSet.ofText
  "e01-e3a e40-e4e e81-e82 e84 e86-e8a e8c-ea3 ea5 ea7-ebd ec0-ec4 ec6 ec8-ece edc-edf 1000-103f
   1050-108f 109a-109f 1780-17d3 17d7 17dc-17dd 1950-196d 1970-1974 1980-19ab 19b0-19c9 19da
   19de-19df 1a20-1a5e 1a60-1a7c 1aa0-1aad a9e0-a9ef a9fa-a9fe aa60-aac2 aadb-aadf 11700-1171a
   1171d-1172b 1173a-1173b 1173f-11746"

def wordLetters : CharSet :=
  (CharSet.unions [Property.alphabetic, CharSet.ofText
    "2c2-2c5 2d2-2d7 2de-2df 2e5-2eb 2ed 2ef-2ff 55a-55c 55e 58a 5f3 a708-a716 a720-a721 a789-a78a
     ab5b"]).diff
    (CharSet.unions [having "ideographic", katakana, unspaced, writtenIn "hiragana", wordExtend,
      hebrewLetters])

def words : List (List String × CharSet) := [
  (["cr"], returns),
  (["dq", "doublequote"], CharSet.ofText "22"),
  (["ex", "extendnumlet"], CharSet.ofText "5f 202f 203f-2040 2054 fe33-fe34 fe4d-fe4f ff3f"),
  (["extend"], wordExtend),
  (["fo", "format"], formats.diff (CharSet.ofText "200b")),
  (["hl", "hebrewletter"], hebrewLetters),
  (["ka", "katakana"], katakana),
  (["le", "aletter"], wordLetters),
  (["lf"], feeds),
  (["mb", "midnumlet"], CharSet.ofText "2e 2018-2019 2024 fe52 ff07 ff0e"),
  (["ml", "midletter"], CharSet.ofText "3a b7 387 55f 5f4 2027 fe13 fe55 ff1a"),
  (["mn", "midnum"], CharSet.ofText
    "2c 3b 37e 589 60c-60d 66c 7f8 2044 fe10 fe14 fe50 fe54 ff0c ff1b"),
  (["nl", "newline"], CharSet.ofText "b-c 85 2028-2029"),
  (["nu", "numeric"], CharSet.unions [Category.decimalNumbers, CharSet.ofText "66b"]),
  (["ri", "regionalindicator"], regional),
  (["sq", "singlequote"], CharSet.ofText "27"),
  (["wsegspace"], (Category.union ["zs"]).diff (CharSet.ofText "a0 2007 202f")),
  (["zwj"], joiner)]

/-! Sentences. -/

def sentenceExtend : CharSet := CharSet.unions [marks, joiner]

def sentenceLower : CharSet :=
  ((having "lowercase").diff Property.graphemeExtend).diff (CharSet.ofText "10d0-10fa 10fd-10ff")

def sentenceUpper : CharSet :=
  (CharSet.unions [Category.union ["lt"], having "uppercase"]).diff
    (CharSet.ofText "1c90-1cba 1cbd-1cbf")

def otherLetters : CharSet :=
  (CharSet.unions [Property.alphabetic, CharSet.ofText "5f3"]).diff
    (CharSet.unions [sentenceLower, sentenceUpper, sentenceExtend])

/-- Stops that also occur within a sentence. -/
def stops : CharSet := CharSet.ofText "2e 2024 fe52 ff0e"

def sentences : List (List String × CharSet) := [
  (["at", "aterm"], stops),
  (["cl", "close"], CharSet.unions [Category.union ["ps", "pe", "pi", "pf"],
    CharSet.ofText "22 27 275b-2760 2e00-2e01 2e06-2e08 2e0b 1f676-1f678"]),
  (["cr"], returns),
  (["ex", "extend"], sentenceExtend),
  (["fo", "format"], formats),
  (["le", "oletter"], otherLetters),
  (["lf"], feeds),
  (["lo", "lower"], sentenceLower),
  (["nu", "numeric"], CharSet.unions [Category.decimalNumbers, CharSet.ofText "66b-66c"]),
  (["sc", "scontinue"], CharSet.ofText
    "2c-2d 3a-3b 37e 55d 60c-60d 7f8 1802 1808 2013-2014 3001 fe10-fe11 fe13-fe14 fe31-fe32
     fe50-fe51 fe54-fe55 fe58 fe63 ff0c-ff0d ff1a-ff1b ff64"),
  (["se", "sep"], CharSet.ofText "85 2028-2029"),
  (["sp"], Property.whiteSpace.diff (CharSet.ofText "a d 85 2028-2029")),
  (["st", "sterm"], (having "sentenceterminal").diff stops),
  (["up", "upper"], sentenceUpper)]

def find? (table : List (List String × CharSet)) (name : String) : Option CharSet :=
  (table.find? fun entry => entry.1.contains name).map Prod.snd

end HistorySurvey.Unicode.Break

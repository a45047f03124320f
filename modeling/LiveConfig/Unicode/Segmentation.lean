import LiveConfig.Unicode.Property
import LiveConfig.Unicode.Script

/-!
# Segmentation classes

The classes by which a text is divided into grapheme clusters, words and sentences,
each by its full name.  They follow from the categories, scripts and properties of
version 16 of the character database, and from short lists of single characters.
-/

namespace LiveConfig
namespace Unicode

/-- The characters that belong to the cluster of the next one. -/
def prependSet : CharSet :=
  .ofTable "600-605 6dd 70f 890-891 8e2 d4e 110bd 110cd 111c2-111c3 113d1 1193f 11941 11a3a
    11a84-11a89 11d46 11f02"

/-- The marks that extend a cluster, with the modifiers of emoji. -/
def clusterExtendSet : CharSet :=
  (graphemeExtendSet .v16).union (listed .v16 "Emoji_Modifier")

def spacingMarkSet : CharSet := categorySet .v16 ["Mc"]

def formatSet : CharSet := categorySet .v16 ["Cf"]

/-- The numbers, and the signs that are read as parts of numbers. -/
def numericSet : CharSet :=
  (categorySet .v16 ["Nd"]).union
    (.ofTable "600-605 66b-66c 6dd 890-891 8e2 110bd 110cd")

/-- The letters of scripts that are written without spaces between words. -/
def unspacedLetterSet : CharSet :=
  .ofTable "e01-e3a e40-e4e e81-e82 e84 e86-e8a e8c-ea3 ea5 ea7-ebd ec0-ec4 ec6 ec8-ece edc-edf
    1000-103f 1050-108f 109a-109f 1780-17d3 17d7 17dc-17dd 1950-196d 1970-1974 1980-19ab
    19b0-19c9 19da 19de-19df 1a20-1a5e 1a60-1a7c 1aa0-1aad a9e0-a9ef a9fa-a9fe aa60-aac2
    aadb-aadf 11700-1171a 1171d-1172b 1173a-1173b 1173f-11746"

/-- The code points of a script by its code. -/
def scriptSet (code : String) : CharSet :=
  match scripts.find? (·.code == code) with
  | some script => script.set
  | none => .empty

/-- The Hangul syllables without a final consonant. -/
def openSyllableSet : CharSet := .ofTable "ac00-d788/1c"

def controlSet : CharSet :=
  let unassigned :=
    (categorySet .v16 ["Cn"]).inter (listed .v16 "Default_Ignorable_Code_Point")
  ((categorySet .v16 ["Zl", "Zp", "Cc", "Cf"]).union unassigned).diff
    ((prependSet.union clusterExtendSet).union (.ofTable "a d 200c-200d"))

/-- A class of `Grapheme_Cluster_Break`. -/
def graphemeBreakSet? (name : String) : Option CharSet :=
  match name with
  | "CR" => some (.single 0x0D)
  | "LF" => some (.single 0x0A)
  | "Control" => some controlSet
  | "Extend" => some clusterExtendSet
  | "ZWJ" => some (.single 0x200D)
  | "Regional_Indicator" => some (listed .v16 "Regional_Indicator")
  | "Prepend" => some prependSet
  | "SpacingMark" =>
    some (((spacingMarkSet.diff clusterExtendSet).union (.ofTable "e33 eb3")).diff
      (.ofTable "102b-102c 1038 1062-1064 1067-106d 1083 1087-108c 108f 109a-109c 1a61 1a63-1a64
        aa7b aa7d 11720-11721"))
  | "L" => some (.ofTable "1100-115f a960-a97c")
  | "V" => some (.ofTable "1160-11a7 d7b0-d7c6 16d63 16d67-16d6a")
  | "T" => some (.ofTable "11a8-11ff d7cb-d7fb")
  | "LV" => some openSyllableSet
  | "LVT" => some ((CharSet.range 0xAC00 0xD7A3).diff openSyllableSet)
  | _ => none

/-- The characters that words and sentences pass over after another one. -/
def attachedSet : CharSet := clusterExtendSet.union spacingMarkSet

def katakanaSet : CharSet :=
  (scriptSet "Kana").union (.ofTable "3031-3035 309b-309c 30a0 30fc ff70")

def hebrewLetterSet : CharSet := (scriptSet "Hebr").inter (categorySet .v16 ["Lo"])

/-- The letters of words, other than those of scripts with rules of their own. -/
def wordLetterSet : CharSet :=
  let letters := (alphabeticSet .v16).union
    (.ofTable "2c2-2c5 2d2-2d7 2de-2df 2e5-2eb 2ed 2ef-2ff 55a-55c 55e 58a 5f3 70f a708-a716
      a720-a721 a789-a78a ab5b")
  let others := [listed .v16 "Ideographic", katakanaSet, unspacedLetterSet, scriptSet "Hira",
    attachedSet, hebrewLetterSet]
  others.foldl CharSet.diff letters

/-- A class of `Word_Break`. -/
def wordBreakSet? (name : String) : Option CharSet :=
  match name with
  | "CR" => some (.single 0x0D)
  | "LF" => some (.single 0x0A)
  | "Newline" => some (.ofTable "b-c 85 2028-2029")
  | "Extend" => some (attachedSet.diff (.single 0x200D))
  | "ZWJ" => some (.single 0x200D)
  | "Regional_Indicator" => some (listed .v16 "Regional_Indicator")
  | "Format" =>
    some (formatSet.diff ((prependSet.union attachedSet).union (.range 0x200B 0x200D)))
  | "Katakana" => some katakanaSet
  | "Hebrew_Letter" => some hebrewLetterSet
  | "ALetter" => some wordLetterSet
  | "Single_Quote" => some (.single 0x27)
  | "Double_Quote" => some (.single 0x22)
  | "MidNumLet" => some (.ofTable "2e 2018-2019 2024 fe52 ff07 ff0e")
  | "MidLetter" => some (.ofTable "3a b7 387 55f 5f4 2027 fe13 fe55 ff1a")
  | "MidNum" =>
    some (.ofTable "2c 3b 37e 589 60c-60d 66c 7f8 2044 fe10 fe14 fe50 fe54 ff0c ff1b")
  | "Numeric" => some (numericSet.diff (.single 0x66C))
  | "ExtendNumLet" => some ((categorySet .v16 ["Pc"]).union (.single 0x202F))
  | "WSegSpace" => some ((categorySet .v16 ["Zs"]).diff (.ofTable "a0 2007 202f"))
  | _ => none

def sentenceLowerSet : CharSet :=
  ((lowercaseSet .v16).diff (graphemeExtendSet .v16)).diff (.ofTable "10d0-10fa 10fd-10ff")

def sentenceUpperSet : CharSet :=
  ((uppercaseSet .v16).union (categorySet .v16 ["Lt"])).diff (.ofTable "1c90-1cba 1cbd-1cbf")

/-- The marks that end a sentence or an abbreviation. -/
def fullStopSet : CharSet := .ofTable "2e 2024 fe52 ff0e"

def sentenceTerminalSet : CharSet := (listed .v16 "Sentence_Terminal").diff fullStopSet

/-- The marks and joiners that sentences pass over after another character. -/
def sentenceExtendSet : CharSet :=
  ((graphemeExtendSet .v16).union spacingMarkSet).union (.single 0x200D)

/-- A class of `Sentence_Break`. -/
def sentenceBreakSet? (name : String) : Option CharSet :=
  match name with
  | "CR" => some (.single 0x0D)
  | "LF" => some (.single 0x0A)
  | "Extend" => some sentenceExtendSet
  | "Sep" => some (.ofTable "85 2028-2029")
  | "Format" => some ((formatSet.diff numericSet).diff (sentenceExtendSet.union (.single 0x200C)))
  | "Sp" => some (spaceSet.diff (.ofTable "a d 85 2028-2029"))
  | "Lower" => some sentenceLowerSet
  | "Upper" => some sentenceUpperSet
  | "OLetter" =>
    let letters := (alphabeticSet .v16).union (.single 0x5F3)
    some ([sentenceLowerSet, sentenceUpperSet, sentenceExtendSet].foldl CharSet.diff letters)
  | "Numeric" => some numericSet
  | "ATerm" => some fullStopSet
  | "SContinue" =>
    some (.ofTable "2c-2d 3a-3b 37e 55d 60c-60d 7f8 1802 1808 2013-2014 3001 fe10-fe11 fe13-fe14
      fe31-fe32 fe50-fe51 fe54-fe55 fe58 fe63 ff0c-ff0d ff1a-ff1b ff64")
  | "STerm" => some sentenceTerminalSet
  | "Close" =>
    some (((categorySet .v16 ["Ps", "Pe"]).union
      (.ofTable "22 27 ab bb 2018-2019 201b-201d 201f 2039-203a 275b-2760 2e00-2e0d 2e1c-2e1d
        2e20-2e21 1f676-1f678")).diff sentenceTerminalSet)
  | _ => none

end Unicode
end LiveConfig

import LiveConfig.Unicode.Age
import LiveConfig.Unicode.Case
import LiveConfig.Unicode.Segmentation

/-!
# Names of character classes

The bracket classes of ASCII, and the classes of Unicode by property, general
category, script, age or segmentation.  A Unicode name is read without regard to
case, blanks, underscores, hyphens and a leading `is`.
-/

namespace LiveConfig
namespace Regex

/-- The ASCII class of a name between brackets and colons. -/
def asciiClass? (name : String) : Option CharSet :=
  match name with
  | "alnum" => some (.ofTable "30-39 41-5a 61-7a")
  | "alpha" => some (.ofTable "41-5a 61-7a")
  | "ascii" => some (.ofTable "0-7f")
  | "blank" => some (.ofTable "9 20")
  | "cntrl" => some (.ofTable "0-1f 7f")
  | "digit" => some (.ofTable "30-39")
  | "graph" => some (.ofTable "21-7e")
  | "lower" => some (.ofTable "61-7a")
  | "print" => some (.ofTable "20-7e")
  | "punct" => some (.ofTable "21-2f 3a-40 5b-60 7b-7e")
  | "space" => some (.ofTable "9-d 20")
  | "upper" => some (.ofTable "41-5a")
  | "word" => some (.ofTable "30-39 41-5a 5f 61-7a")
  | "xdigit" => some (.ofTable "30-39 41-46 61-66")
  | _ => none

/-- The form of a name in which names are compared. -/
def looseName (name : List Char) : String :=
  let hasIs := (name.take 2).map Char.toLower = ['i', 's']
  let body := if hasIs then name.drop 2 else name
  let kept := (body.filter fun c => c.toNat < 0x80 && c != ' ' && c != '_' && c != '-').map
    Char.toLower
  if hasIs ∧ kept = ['c'] then "isc" else String.ofList kept

/-- The categories that a name stands for, by its short or long form.  Surrogates are
no characters and have no name. -/
def categoryNames : List (List String × List String) := [
  (["lu", "uppercaseletter"], ["Lu"]), (["ll", "lowercaseletter"], ["Ll"]),
  (["lt", "titlecaseletter"], ["Lt"]), (["lc", "casedletter"], ["Lu", "Ll", "Lt"]),
  (["lm", "modifierletter"], ["Lm"]), (["lo", "otherletter"], ["Lo"]),
  (["l", "letter"], ["Lu", "Ll", "Lt", "Lm", "Lo"]),
  (["mn", "nonspacingmark"], ["Mn"]), (["mc", "spacingmark"], ["Mc"]),
  (["me", "enclosingmark"], ["Me"]), (["m", "mark", "combiningmark"], ["Mn", "Mc", "Me"]),
  (["nd", "decimalnumber", "digit"], ["Nd"]), (["nl", "letternumber"], ["Nl"]),
  (["no", "othernumber"], ["No"]), (["n", "number"], ["Nd", "Nl", "No"]),
  (["pc", "connectorpunctuation"], ["Pc"]), (["pd", "dashpunctuation"], ["Pd"]),
  (["ps", "openpunctuation"], ["Ps"]), (["pe", "closepunctuation"], ["Pe"]),
  (["pi", "initialpunctuation"], ["Pi"]), (["pf", "finalpunctuation"], ["Pf"]),
  (["po", "otherpunctuation"], ["Po"]),
  (["p", "punctuation", "punct"], ["Pc", "Pd", "Ps", "Pe", "Pi", "Pf", "Po"]),
  (["sm", "mathsymbol"], ["Sm"]), (["sc", "currencysymbol"], ["Sc"]),
  (["sk", "modifiersymbol"], ["Sk"]), (["so", "othersymbol"], ["So"]),
  (["s", "symbol"], ["Sm", "Sc", "Sk", "So"]),
  (["zs", "spaceseparator"], ["Zs"]), (["zl", "lineseparator"], ["Zl"]),
  (["zp", "paragraphseparator"], ["Zp"]), (["z", "separator"], ["Zs", "Zl", "Zp"]),
  (["cc", "control", "cntrl"], ["Cc"]), (["cf", "format"], ["Cf"]),
  (["co", "privateuse"], ["Co"]), (["cn", "unassigned"], ["Cn"]),
  (["c", "other"], ["Cc", "Cf", "Cs", "Co", "Cn"])]

def categoryClass? (name : String) : Option CharSet :=
  match name with
  | "any" => some .all
  | "assigned" => some (Unicode.categorySet .v16 ["Cn"]).compl
  | "ascii" => some (.range 0 0x7F)
  | name =>
    (categoryNames.find? fun row => row.1.contains name).map fun row =>
      Unicode.categorySet .v16 row.2

/-- Short names of binary properties; the long ones are those of the tables. -/
def propertyShortNames : List (String × String) := [
  ("ahex", "ASCII_Hex_Digit"), ("alpha", "Alphabetic"), ("bidic", "Bidi_Control"),
  ("bidim", "Bidi_Mirrored"), ("ci", "Case_Ignorable"), ("cwcf", "Changes_When_Casefolded"),
  ("cwcm", "Changes_When_Casemapped"), ("cwl", "Changes_When_Lowercased"),
  ("cwt", "Changes_When_Titlecased"), ("cwu", "Changes_When_Uppercased"), ("dep", "Deprecated"),
  ("di", "Default_Ignorable_Code_Point"), ("dia", "Diacritic"), ("ebase", "Emoji_Modifier_Base"),
  ("ecomp", "Emoji_Component"), ("emod", "Emoji_Modifier"), ("epres", "Emoji_Presentation"),
  ("ext", "Extender"), ("extpict", "Extended_Pictographic"), ("grbase", "Grapheme_Base"),
  ("grext", "Grapheme_Extend"), ("grlink", "Grapheme_Link"), ("hex", "Hex_Digit"),
  ("idc", "ID_Continue"), ("ids", "ID_Start"), ("idsb", "IDS_Binary_Operator"),
  ("idst", "IDS_Trinary_Operator"), ("idsu", "IDS_Unary_Operator"), ("ideo", "Ideographic"),
  ("joinc", "Join_Control"), ("loe", "Logical_Order_Exception"), ("lower", "Lowercase"),
  ("mcm", "Modifier_Combining_Mark"), ("nchar", "Noncharacter_Code_Point"),
  ("oalpha", "Other_Alphabetic"), ("odi", "Other_Default_Ignorable_Code_Point"),
  ("ogrext", "Other_Grapheme_Extend"), ("oidc", "Other_ID_Continue"), ("oids", "Other_ID_Start"),
  ("olower", "Other_Lowercase"), ("omath", "Other_Math"), ("oupper", "Other_Uppercase"),
  ("patsyn", "Pattern_Syntax"), ("patws", "Pattern_White_Space"),
  ("pcm", "Prepended_Concatenation_Mark"), ("qmark", "Quotation_Mark"),
  ("ri", "Regional_Indicator"), ("sd", "Soft_Dotted"), ("space", "White_Space"),
  ("sterm", "Sentence_Terminal"), ("term", "Terminal_Punctuation"), ("uideo", "Unified_Ideograph"),
  ("upper", "Uppercase"), ("vs", "Variation_Selector"), ("wspace", "White_Space"),
  ("xidc", "XID_Continue"), ("xids", "XID_Start")]

def derivedProperties : List String := [
  "Alphabetic", "Lowercase", "Uppercase", "Cased", "Case_Ignorable", "Grapheme_Extend",
  "Grapheme_Base", "ID_Start", "ID_Continue", "XID_Start", "XID_Continue", "Math",
  "Changes_When_Casefolded", "Changes_When_Casemapped", "Changes_When_Lowercased",
  "Changes_When_Titlecased", "Changes_When_Uppercased"]

/-- The code points with a binary property, by its full name. -/
def propertySet? (name : String) : Option CharSet :=
  match Unicode.changesWhen? name with
  | some set => some set
  | none => Unicode.propertySet? name

def propertyClass? (name : String) : Option CharSet :=
  match propertyShortNames.lookup name with
  | some long => propertySet? long
  | none =>
    let names := derivedProperties ++ Unicode.propertyTable.map (·.1)
    match names.find? fun long => looseName long.toList == name with
    | some long => propertySet? long
    | none => none

def script? (name : String) : Option Unicode.Script :=
  let code := if name = "qaac" then "copt" else if name = "qaai" then "zinh" else name
  Unicode.scripts.find? fun script =>
    looseName script.name.toList == code || looseName script.code.toList == code

/-- The class of a name on its own. -/
def unicodeClass? (name : List Char) : Option CharSet :=
  let name := looseName name
  let property := if ["cf", "sc", "lc"].contains name then none else propertyClass? name
  match property with
  | some set => some set
  | none =>
    match categoryClass? name with
    | some set => some set
    | none => (script? name).map Unicode.Script.set

/-- Short names of classes by the full ones. -/
def graphemeBreakNames : List (String × String) := [
  ("cn", "Control"), ("ex", "Extend"), ("pp", "Prepend"), ("ri", "Regional_Indicator"),
  ("sm", "SpacingMark")]

def wordBreakNames : List (String × String) := [
  ("dq", "Double_Quote"), ("ex", "ExtendNumLet"), ("fo", "Format"), ("hl", "Hebrew_Letter"),
  ("ka", "Katakana"), ("le", "ALetter"), ("mb", "MidNumLet"), ("ml", "MidLetter"), ("mn", "MidNum"),
  ("nl", "Newline"), ("nu", "Numeric"), ("ri", "Regional_Indicator"), ("sq", "Single_Quote")]

def sentenceBreakNames : List (String × String) := [
  ("at", "ATerm"), ("cl", "Close"), ("ex", "Extend"), ("fo", "Format"), ("le", "OLetter"),
  ("lo", "Lower"), ("nu", "Numeric"), ("sc", "SContinue"), ("se", "Sep"), ("sp", "Sp"),
  ("st", "STerm"), ("up", "Upper")]

def graphemeBreaks : List String := [
  "CR", "LF", "Control", "Extend", "ZWJ", "Regional_Indicator", "Prepend", "SpacingMark", "L", "V",
  "T", "LV", "LVT"]

def wordBreaks : List String := [
  "CR", "LF", "Newline", "Extend", "ZWJ", "Regional_Indicator", "Format", "Katakana",
  "Hebrew_Letter", "ALetter", "Single_Quote", "Double_Quote", "MidNumLet", "MidLetter", "MidNum",
  "Numeric", "ExtendNumLet", "WSegSpace"]

def sentenceBreaks : List String := [
  "CR", "LF", "Extend", "Sep", "Format", "Sp", "Lower", "Upper", "OLetter", "Numeric", "ATerm",
  "SContinue", "STerm", "Close"]

/-- The full name that a loose name stands for. -/
def fullName? (short : List (String × String)) (long : List String) (name : String) :
    Option String :=
  match short.lookup name with
  | some full => some full
  | none => long.find? fun full => looseName full.toList == name

/-- The code points of an age such as `6.1`, which is also written `V6_1`. -/
def ageClass? (name : String) : Option CharSet :=
  let isName (version : String) : Bool :=
    name == version || name == "v" ++ String.ofList (version.toList.filter (· != '.'))
  ((Unicode.ageTable.map (·.1)).find? isName).bind Unicode.agedSet?

/-- The class of a property with a value. -/
def unicodeClassOf? (property value : List Char) : Option CharSet :=
  let value := looseName value
  match looseName property with
  | "gc" | "generalcategory" => categoryClass? value
  | "sc" | "script" => (script? value).map Unicode.Script.set
  | "scx" | "scriptextensions" => (script? value).map Unicode.Script.extendedSet
  | "age" => ageClass? value
  | "gcb" | "graphemeclusterbreak" =>
    (fullName? graphemeBreakNames graphemeBreaks value).bind Unicode.graphemeBreakSet?
  | "wb" | "wordbreak" => (fullName? wordBreakNames wordBreaks value).bind Unicode.wordBreakSet?
  | "sb" | "sentencebreak" =>
    (fullName? sentenceBreakNames sentenceBreaks value).bind Unicode.sentenceBreakSet?
  | _ => none

end Regex
end LiveConfig

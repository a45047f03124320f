import LiveConfig.Unicode.Direction
import LiveConfig.Unicode.Joining
import LiveConfig.Url.DomainMap
import LiveConfig.Url.Punycode

/-!
# Domains

A domain is written in ASCII label by label.  A label of other characters is encoded
after the mark `xn--`, and a label with this mark has to be the code of one that is
written as it would be read.  If any label is written to the left, each label has to
be written in one direction.
-/

namespace LiveConfig
namespace Domain

/-- The ASCII characters that no domain holds. -/
def isForbidden (c : Char) : Bool :=
  c.toNat ≤ 0x20 || c.toNat == 0x7F ||
    ['%', '#', '/', ':', '<', '>', '?', '@', '[', '\\', ']', '^', '|'].contains c

def isAscii (c : Char) : Bool := c.toNat < 0x80

def markSet : CharSet := Unicode.categorySet .v17 ["Mn", "Mc", "Me"]

/-- A text as it is read. -/
def read (text : List Char) : List Char := Unicode.compose (text.flatMap readChar)

/-- The text of a label, and how it is written. -/
structure Label where
  text : List Char
  ascii : List Char
  deriving Inhabited

/-- Whether a label that is not ASCII may stand in a domain. -/
def isValidLabel (label : List Char) : Bool :=
  label.all (fun c => isAscii c || !invalidSet.mem c) &&
    !(label.head?.any markSet.mem) && Unicode.joinersFit [] label

/-- How many characters are encoded at most, and decoded at most. -/
def encodeLimit : Nat := 1000

def decodeLimit : Nat := 2000

/-- The label with the code after the mark. -/
def decodeLabel? (encoded : List Char) : Option (List Char) :=
  if encoded.length ≤ decodeLimit ∧ encoded.getLast? ≠ some '-' then
    match Punycode.decode? encoded with
    | some label =>
      if !label.all isAscii && isValidLabel label && read label == label then some label else none
    | none => none
  else none

/-- The label of a text that is read. -/
def label? (text : List Char) : Option Label :=
  match text with
  | 'x' :: 'n' :: '-' :: '-' :: encoded =>
    (decodeLabel? encoded).map fun label => ⟨label, text⟩
  | text =>
    if text.all isAscii then some ⟨text, text⟩
    else if isValidLabel text ∧ text.length ≤ encodeLimit then
      some ⟨text, ['x', 'n', '-', '-'] ++ Punycode.encode text⟩
    else none

/-- Whether something in a text is written to the left. -/
def hasLeftward (text : List Char) : Bool :=
  text.any fun c =>
    Unicode.direction c = .rightToLeft || Unicode.direction c = .arabicNumber

/-- A domain in ASCII. -/
def ascii? (text : List Char) : Option (List Char) := do
  let labels ← (Text.splitChars '.' (read text)).mapM label?
  let isDirected := labels.all fun label => Unicode.isOneWay label.text
  if labels.any (hasLeftward ·.text) ∧ ¬isDirected then none
  let domain := List.intercalate ['.'] (labels.map (·.ascii))
  if domain.any isForbidden then none else some domain

end Domain
end LiveConfig

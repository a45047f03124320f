/-!
# White space and trimming

White space is the Unicode property White_Space.
-/

namespace LiveConfig

/-- The characters with the property White_Space. -/
def isBlank (c : Char) : Bool :=
  let n := c.toNat
  (9 ≤ n && n ≤ 13) || n == 0x20 || n == 0x85 || n == 0xA0 || n == 0x1680 ||
    (0x2000 ≤ n && n ≤ 0x200A) || n == 0x2028 || n == 0x2029 || n == 0x202F ||
    n == 0x205F || n == 0x3000

namespace Text

def trimStart (text : List Char) : List Char := text.dropWhile isBlank

def trimEnd (text : List Char) : List Char := (text.reverse.dropWhile isBlank).reverse

/-- The text without the white space at its two ends. -/
def trimChars (text : List Char) : List Char := trimEnd (trimStart text)

def trim (text : String) : String := String.ofList (trimChars text.toList)

/-- The pieces between the occurrences of `separator`, at least one. -/
def splitChars (separator : Char) : List Char → List (List Char)
  | [] => [[]]
  | c :: rest =>
    if c = separator then [] :: splitChars separator rest
    else
      match splitChars separator rest with
      | [] => [[c]]
      | piece :: pieces => (c :: piece) :: pieces

/-- ASCII letters in lower case, everything else as it is. -/
def asciiLower (text : String) : String := text.map Char.toLower

def asciiUpper (text : String) : String := text.map Char.toUpper

/-- The text after `start`, if it begins with it. -/
def afterStart? : (start text : List Char) → Option (List Char)
  | [], text => some text
  | _ :: _, [] => none
  | s :: start, c :: text => if s = c then afterStart? start text else none

/-- Whether `part` occurs in `text`. -/
def occursIn (part : List Char) : List Char → Bool
  | [] => part.isEmpty
  | c :: rest => part.isPrefixOf (c :: rest) || occursIn part rest

end Text
end LiveConfig

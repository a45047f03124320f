import LiveConfig.Json.Basic

/-!
# Compact JSON text

No spaces.  Strings escape the quotation mark, the backslash and the control
characters below U+0020, which are written by a letter where JSON has one.  A
double that is not finite has no JSON text and is written as `null`.
-/

namespace LiveConfig
namespace Json

def hexDigit (n : Nat) : Char := (Nat.toDigits 16 (n % 16)).headD '0'

def escapeChar (c : Char) : List Char :=
  match c with
  | '"' => ['\\', '"']
  | '\\' => ['\\', '\\']
  | '\x08' => ['\\', 'b']
  | '\t' => ['\\', 't']
  | '\n' => ['\\', 'n']
  | '\x0c' => ['\\', 'f']
  | '\r' => ['\\', 'r']
  | c =>
    if c.toNat < 0x20 then
      ['\\', 'u', '0', '0', hexDigit (c.toNat / 16), hexDigit c.toNat]
    else [c]

/-- The string literal of a text. -/
def quote (text : String) : String :=
  String.ofList ('"' :: text.toList.flatMap escapeChar ++ ['"'])

mutual

def pieces : Json → List String
  | null => ["null"]
  | bool true => ["true"]
  | bool false => ["false"]
  | int i => [toString i]
  | float d => [if d.isFinite then d.toJsonText else "null"]
  | str s => [quote s]
  | arr [] => ["[]"]
  | arr (x :: xs) => "[" :: pieces x ++ itemPieces xs
  | obj [] => ["\x7b\x7d"]
  | obj ((k, x) :: xs) => "\x7b" :: quote k :: ":" :: pieces x ++ memberPieces xs

def itemPieces : List Json → List String
  | [] => ["]"]
  | x :: xs => "," :: pieces x ++ itemPieces xs

def memberPieces : List (String × Json) → List String
  | [] => ["\x7d"]
  | (k, x) :: xs => "," :: quote k :: ":" :: pieces x ++ memberPieces xs

end

/-- The compact text of a value. -/
def render (value : Json) : String := String.join (pieces value)

end Json
end LiveConfig

import LiveConfig.Unicode.Property

/-!
# Quoted text in messages

A text in a message stands between quotation marks, with everything that a reader
would not see written as an escape: control and format characters, unassigned
and private code points, spaces other than U+0020, letters without a shape, and the
marks that attach to the character before them.
-/

namespace LiveConfig
namespace Text

/-- The Hangul letters that only fill a place. -/
def fillerSet : CharSet := .ofTable "115f-1160 3164 ffa0"

def invisibleSet : CharSet :=
  ((Unicode.categorySet .v17 ["Cc", "Cf", "Cs", "Co", "Cn", "Zl", "Zp", "Zs"]).diff
    (.single 0x20)).union fillerSet

/-- The marks that attach; the narrow Katakana sound marks stand in a place of their own. -/
def attachingSet : CharSet := (Unicode.graphemeExtendSet .v17).diff (.range 0xFF9E 0xFF9F)

def escapedChar (c : Char) : List Char :=
  match c with
  | '\x00' => ['\\', '0']
  | '\t' => ['\\', 't']
  | '\r' => ['\\', 'r']
  | '\n' => ['\\', 'n']
  | '"' => ['\\', '"']
  | '\\' => ['\\', '\\']
  | c =>
    if c.toNat < 0x7F ∧ 0x20 ≤ c.toNat then [c]
    else if attachingSet.mem c || invisibleSet.mem c then
      ['\\', 'u', '\x7b'] ++ Nat.toDigits 16 c.toNat ++ ['\x7d']
    else [c]

def quoted (text : String) : String :=
  String.ofList ('"' :: text.toList.flatMap escapedChar ++ ['"'])

end Text
end LiveConfig

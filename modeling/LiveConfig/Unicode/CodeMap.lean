import LiveConfig.Unicode.CharSet

/-!
# Code points that stand for others

A table is a list of pieces such as `c0=41+300`: a code point and those that it stands
for, in hexadecimal.  A piece without an equals sign is about the next code point.
-/

namespace LiveConfig

structure CodeMap where
  entries : List (Nat × List Nat)

namespace CodeMap

def readCodes (text : List Char) : List Nat := (Text.splitChars '+' text).map Unicode.natOfHex

def readEntries : (next : Nat) → List (List Char) → List (Nat × List Nat)
  | _, [] => []
  | next, piece :: rest =>
    match Text.splitChars '=' piece with
    | [start, codes] =>
      let code := Unicode.natOfHex start
      (code, readCodes codes) :: readEntries (code + 1) rest
    | _ => (next, readCodes piece) :: readEntries (next + 1) rest

def ofTable (table : String) : CodeMap :=
  ⟨readEntries 0 (Unicode.blankSeparated table.toList)⟩

/-- The code points that a code point stands for. -/
def find? (map : CodeMap) (code : Nat) : Option (List Nat) :=
  (map.entries.find? (·.1 == code)).map (·.2)

/-- The code point that stands for the others. -/
def source? (map : CodeMap) (codes : List Nat) : Option Nat :=
  (map.entries.find? (·.2 == codes)).map (·.1)

end CodeMap
end LiveConfig

import LiveConfig.Unicode.Property

/-!
# The direction of writing

Each character has a direction, or takes that of its surroundings.  The tables are
right for the characters that a domain may hold; any other one has the class of its
neighbours.  A label of a domain is written in one direction, as its first character
says (`isOneWay`).
-/

namespace LiveConfig
namespace Unicode

inductive Direction
  | leftToRight
  | rightToLeft
  /-- European digits. -/
  | number
  /-- Arabic digits. -/
  | arabicNumber
  /-- Marks, which have the direction of what they stand on. -/
  | mark
  | neutral
  deriving DecidableEq, Inhabited

def rightToLeftSet : CharSet :=
  .ofTable
    "5be-5f4 608 60b 60d 61b-64a 66d-6d5 6e5-6e6 6ee-6ef 6fa-7f5 7fa-8c9 fbb2-fbc2 fe73
    10800-1091b 10920-10b35 10b40-10d23 10d40-10d4f 10d6f-10d8f 10e80-10ed0 10f00-10ff6
    1e800-1ed3d"

def numberSet : CharSet :=
  .ofTable
    "30-39 6f0-6f9 102e1-102fb"

def arabicNumberSet : CharSet :=
  .ofTable
    "660-669 66b-66c 10d30-10d39 10e60-10e7e"

def neutralSet : CharSet :=
  .ofTable
    "21-2f 3a-60 7b-d7 f7 2b9-2ba 2c2-2cf 2d2-2ed 2ef-2ff 375 3f6 58a-58f 606-607 609-60a 60c
    60e-60f 66a 6de 6e9 7f6-7f9 9f2-9f3 9fb af1 bf3-bfa c78-c7e e3f f3a-f3d 1390-1399 1400
    169b-169c 17db 17f0-180a 1940-1945 19de-19ff 200c-214d 218a-2335 237b-2394 2396-26ab
    26ad-27ff 2900-2bff 2ce5-2cea 2cf9-2cff 2e00-3004 3008-3020 3030 3037 303d-303f 30a0 30fb
    31c0-31e5 4dc0-4dff a490-a4c6 a60d-a60f a673-a67f a700-a721 a788 a828-a82b a838-a839
    a874-a877 ab6a-ab6b fbc3-fe46 10101 10140-1018c 10190-101a0 1091f 10b39-10b3f 10d6e
    10ed1-10ed8 11052-11065 11660-1166c 11fd5-11ff1 16fe2 1cc00-1cef0 1d1e9-1d245 1d300-1d356
    1e2ff 1eef0-1f12f 1f16d-1f16f 1f1ad 1f260-1fbfa"

def directedMarkSet : CharSet :=
  (categorySet .v17 ["Mn", "Me"]).diff (.ofTable "cbf cc6 11a07-11a08 11c3f")

def direction (c : Char) : Direction :=
  if directedMarkSet.mem c then .mark
  else if rightToLeftSet.mem c then .rightToLeft
  else if numberSet.mem c then .number
  else if arabicNumberSet.mem c then .arabicNumber
  else if neutralSet.mem c then .neutral
  else .leftToRight

/-- Whether a text is written in one direction.  The first character says which.  Text
to the right neither holds nor ends in what is written to the left; text to the left
may hold both kinds of numbers, but only one of them.  The last character but marks
is not neutral. -/
def isOneWay (text : List Char) : Bool :=
  match text.map direction with
  | [] => true
  | first :: rest =>
    let ends := (rest.reverse.dropWhile (· == .mark)).head?
    let holds (allowed : List Direction) (last : List Direction) : Bool :=
      rest.all allowed.contains && ends.all last.contains
    match first with
    | .leftToRight => holds [.leftToRight, .number, .neutral, .mark] [.leftToRight, .number]
    | .rightToLeft =>
      holds [.rightToLeft, .arabicNumber, .number, .neutral, .mark]
          [.rightToLeft, .arabicNumber, .number] &&
        !(rest.contains .number && rest.contains .arabicNumber)
    | _ => false

end Unicode
end LiveConfig

import LiveConfig.Number.Decimal
import LiveConfig.Text.Utf8

/-!
# URLs and their text

A URL is kept in its normal form: scheme and host in lower case, everything else
percent-encoded, defaults left out, and no dot segments.  A path is a list of
segments, or for schemes without a hierarchy a text on its own.
-/

namespace LiveConfig

inductive UrlPath
  | segments (segments : List String)
  | plain (text : String)
  deriving DecidableEq, Inhabited

structure Authority where
  /-- User name and password as they stand before the at sign. -/
  userinfo : String
  host : String
  portNumber : Option Nat
  deriving DecidableEq, Inhabited

structure Url where
  scheme : String
  authority : Option Authority
  path : UrlPath
  query : Option String
  fragment : Option String
  deriving DecidableEq, Inhabited

namespace Url

/-- The number of the service that a scheme means by default. -/
def defaultPort? (scheme : String) : Option Nat :=
  match scheme with
  | "http" | "ws" => some 80
  | "https" | "wss" => some 443
  | "ftp" => some 21
  | _ => none

/-- Whether URLs of the scheme always have a host and a path, or name files. -/
def isSpecial (scheme : String) : Bool := (defaultPort? scheme).isSome || scheme == "file"

def Authority.text (a : Authority) : String :=
  let user := if a.userinfo = "" then "" else a.userinfo ++ "@"
  let service :=
    match a.portNumber with
    | some n => ":" ++ toString n
    | none => ""
  "//" ++ user ++ a.host ++ service

def pathText : UrlPath → String
  | .plain text => text
  | .segments segments => String.join (segments.map ("/" ++ ·))

/-- The text of a URL.  A path that begins with an empty segment is kept apart from
an authority that is not there. -/
def text (url : Url) : String :=
  let authority :=
    match url.authority, url.path with
    | some a, _ => Authority.text a
    | none, .segments ("" :: _ :: _) => "/."
    | none, _ => ""
  let query := (url.query.map ("?" ++ ·)).getD ""
  let fragment := (url.fragment.map ("#" ++ ·)).getD ""
  url.scheme ++ ":" ++ authority ++ pathText url.path ++ query ++ fragment

/-! ## Percent-encoding -/

/-- The characters besides controls and non-ASCII that a part of a URL encodes. -/
structure EncodeSet where
  characters : List Char

def EncodeSet.controls : EncodeSet := ⟨[]⟩

def EncodeSet.fragment : EncodeSet := ⟨[' ', '"', '<', '>', '`']⟩

def EncodeSet.query (special : Bool) : EncodeSet :=
  ⟨[' ', '"', '#', '<', '>'] ++ if special then ['\''] else []⟩

def EncodeSet.path : EncodeSet := ⟨EncodeSet.fragment.characters ++ ['#', '?', '\x7b', '\x7d']⟩

def EncodeSet.userinfo : EncodeSet :=
  ⟨EncodeSet.path.characters ++ ['/', ':', ';', '=', '@', '[', '\\', ']', '^', '|']⟩

def hexByte (b : UInt8) : List Char :=
  let digit (n : Nat) : Char := ((Nat.toDigits 16 n).headD '0').toUpper
  ['%', digit (b.toNat / 16), digit (b.toNat % 16)]

def EncodeSet.encodeChar (set : EncodeSet) (c : Char) : List Char :=
  if c.toNat < 0x20 || 0x7F ≤ c.toNat || set.characters.contains c then
    (String.utf8EncodeChar c).flatMap hexByte
  else [c]

def EncodeSet.encode (set : EncodeSet) (text : List Char) : String :=
  String.ofList (text.flatMap set.encodeChar)

def hexDigit? (c : Char) : Option Nat :=
  if isDigit c then some (digitValue c)
  else if 'a' ≤ c ∧ c ≤ 'f' then some (c.toNat - 'a'.toNat + 10)
  else if 'A' ≤ c ∧ c ≤ 'F' then some (c.toNat - 'A'.toNat + 10)
  else none

/-- The bytes of a text with its percent escapes decoded. -/
def percentDecode : List Char → List UInt8
  | [] => []
  | '%' :: a :: b :: rest =>
    match hexDigit? a, hexDigit? b with
    | some x, some y => UInt8.ofNat (16 * x + y) :: percentDecode rest
    | _, _ => 0x25 :: percentDecode (a :: b :: rest)
  | c :: rest => String.utf8EncodeChar c ++ percentDecode rest

end Url
end LiveConfig

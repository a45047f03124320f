import LiveConfig.Url.Host

/-!
# Reading URLs

`Url.parse?` reads an absolute URL, and `Url.child?` appends segments to the path of
a URL as to a directory.  Blanks around the text and tabs and line breaks in it do
not count.  A special URL may have backslashes for slashes.
-/

namespace LiveConfig
namespace Url

def isControlOrSpace (c : Char) : Bool := c.toNat ≤ 0x20

/-- The text without what does not count. -/
def clean (text : List Char) : List Char :=
  let trimmed := ((text.dropWhile isControlOrSpace).reverse.dropWhile isControlOrSpace).reverse
  trimmed.filter fun c => c != '\t' && c != '\n' && c != '\r'

/-- The scheme before the first colon, and what follows. -/
def parseScheme (text : List Char) : Option (String × List Char) :=
  let isSchemeChar (c : Char) : Bool := c.isAlphanum || c == '+' || c == '-' || c == '.'
  let scheme := text.takeWhile isSchemeChar
  match scheme, text.dropWhile isSchemeChar with
  | c :: _, ':' :: rest =>
    if c.isAlpha then some (String.ofList (scheme.map Char.toLower), rest) else none
  | _, _ => none

def isSlash (special : Bool) (c : Char) : Bool := c == '/' || (special && c == '\\')

/-! ## Paths -/

/-- A segment that stands for the directory it is in. -/
def isSingleDot (segment : List Char) : Bool :=
  let s := String.ofList (segment.map Char.toLower)
  s == "." || s == "%2e"

/-- A segment that stands for the directory above. -/
def isDoubleDot (segment : List Char) : Bool :=
  let s := String.ofList (segment.map Char.toLower)
  s == ".." || s == ".%2e" || s == "%2e." || s == "%2e%2e"

def isDriveLetter (segment : List Char) : Bool :=
  match segment with
  | [c, d] => c.isAlpha && (d == ':' || d == '|')
  | _ => false

/-- Whether a segment is a drive letter as far as its first backslash. -/
def startsWithDrive (segment : List Char) : Bool := isDriveLetter (segment.takeWhile (· != '\\'))

/-- The segments without the last one, which stays if it starts with a drive letter. -/
def parent (segments : List String) : List String :=
  if segments.getLast?.any (startsWithDrive ·.toList) then segments else segments.dropLast

/-- A drive letter in its normal form. -/
def driveText (segment : List Char) : String := String.ofList (segment.take 1 ++ [':'])

/-- The segments between slashes. -/
def splitSegments (special : Bool) : List Char → List (List Char)
  | [] => [[]]
  | c :: rest =>
    if isSlash special c then [] :: splitSegments special rest
    else
      match splitSegments special rest with
      | [] => [[c]]
      | segment :: more => (c :: segment) :: more

/-- A path as far as it is read, and whether it begins with the drive of a file. -/
structure PathReading where
  segments : List String := []
  hasDrive : Bool := false

/-- Takes segments onto a path; dots at the end leave an empty segment. -/
def PathReading.add (scheme : String) : PathReading → List (List Char) → PathReading
  | path, [] => path
  | path, segment :: rest =>
    let stay (segments : List String) : PathReading :=
      { path with segments := if rest.isEmpty then segments ++ [""] else segments }
    let next : PathReading :=
      if isDoubleDot segment then stay (parent path.segments)
      else if isSingleDot segment then stay path.segments
      else if scheme == "file" && path.segments.isEmpty && isDriveLetter segment then
        ⟨[driveText segment], true⟩
      else { path with segments := path.segments ++ [EncodeSet.path.encode segment] }
    next.add scheme rest

/-- The path of a text.  The path of a file has no empty segments at its start. -/
def readPath (scheme : String) (text : List Char) : PathReading :=
  let path := PathReading.add scheme {} (splitSegments (isSpecial scheme) text)
  if scheme == "file" then
    match path.segments.dropWhile (· == "") with
    | [] => { path with segments := [""] }
    | segments => { path with segments }
  else path

/-- A text without the slash that it begins with. -/
def dropSlash (special : Bool) : List Char → List Char
  | [] => []
  | c :: rest => if isSlash special c then rest else c :: rest

/-- The path after an authority. -/
def parsePath (scheme : String) (text : List Char) : List String :=
  if text = [] ∧ ¬isSpecial scheme then []
  else (readPath scheme (dropSlash (isSpecial scheme) text)).segments

/-! ## Authorities -/

/-- Splits at the last at sign. -/
def splitUserinfo (text : List Char) : Option (List Char × List Char) :=
  let host := (text.reverse.takeWhile (· != '@')).reverse
  if host.length = text.length then none
  else some (text.take (text.length - host.length - 1), host)

/-- User name and password, encoded; an empty password is left out. -/
def userinfoText (text : List Char) : String :=
  let encode := EncodeSet.userinfo.encode
  let name := text.takeWhile (· != ':')
  match text.dropWhile (· != ':') with
  | _ :: c :: password => encode name ++ ":" ++ encode (c :: password)
  | _ => encode name

/-- A host and what follows its colon; colons in brackets belong to the host. -/
def splitPort (text : List Char) : List Char × Option (List Char) :=
  let rec go (inBrackets : Bool) : List Char → List Char × Option (List Char)
    | [] => ([], none)
    | c :: rest =>
      if c = ':' ∧ inBrackets = false then ([], some rest)
      else
        let (host, number) := go ((inBrackets || c == '[') && c != ']') rest
        (c :: host, number)
  go false text

/-- A number below `2 ^ 16`, left out where it is empty or the default of the scheme. -/
def parsePort (scheme : String) (text : List Char) : Option (Option Nat) :=
  if text = [] then some none
  else if text.all isDigit then
    let n := natOfDigits text
    if 65536 ≤ n then none else some (if defaultPort? scheme == some n then none else some n)
  else none

/-- An authority, with what follows a backslash after its number, and whether anything
follows all of that.  An empty host takes neither a user nor a number, and no bare at
sign with something after it. -/
def parseAuthority (scheme : String) (text : List Char) (more : Bool) :
    Option (Authority × List Char) := do
  let split := splitUserinfo text
  let (userinfo, rest) := split.getD ([], text)
  let user := userinfoText userinfo
  let (host, number) := splitPort rest
  let special := isSpecial scheme
  let hostText ← if special then Host.special? host else Host.other? host
  let bareAtSign := split.isSome && userinfo.isEmpty && more
  if hostText = "" ∧ (number.isSome ∨ user ≠ "" ∨ bareAtSign) then none
  let number := number.getD []
  let portNumber ← parsePort scheme (number.takeWhile (· != '\\'))
  return (⟨user, hostText, portNumber⟩, number.dropWhile (· != '\\'))

/-! ## The whole -/

/-- Separates query and fragment from what stands before them. -/
def splitTail (text : List Char) : List Char × Option (List Char) × Option (List Char) :=
  let body := text.takeWhile (· != '#')
  let fragment := if body.length = text.length then none else some (text.drop (body.length + 1))
  let path := body.takeWhile (· != '?')
  let query := if path.length = body.length then none else some (body.drop (path.length + 1))
  (path, query, fragment)

/-- Host and path of a URL of the scheme `file`.  A drive letter in place of the host
begins the path, and one at the start of the path takes the place of the host.  After
an empty host the first slash is not left out, so that its path begins with an empty
segment. -/
def parseFile (body : List Char) : Option (String × List String) :=
  match body with
  | a :: b :: rest =>
    if isSlash true a && isSlash true b then
      let host := rest.takeWhile (!isSlash true ·)
      let path := rest.dropWhile (!isSlash true ·)
      if isDriveLetter host then some ("", (readPath "file" rest).segments)
      else do
        let host ← if host = [] then some "" else Host.special? host
        if host = "" ∨ host = "localhost" then some ("", (readPath "file" path).segments)
        else
          let path := readPath "file" (dropSlash true path)
          some (if path.hasDrive then "" else host, path.segments)
    else some ("", parsePath "file" (a :: b :: rest))
  | body => some ("", parsePath "file" body)

def parse? (text : String) : Option Url := do
  let (scheme, rest) ← parseScheme (clean text.toList)
  let special := isSpecial scheme
  let (body, query, fragment) := splitTail rest
  let query := query.map (EncodeSet.query special).encode
  let fragment := fragment.map EncodeSet.fragment.encode
  let withAuthority (body : List Char) : Option Url := do
    let after := body.dropWhile (!isSlash special ·)
    let more := !after.isEmpty || query.isSome || fragment.isSome
    let (authority, rest) ← parseAuthority scheme (body.takeWhile (!isSlash special ·)) more
    let path := parsePath scheme (rest ++ after)
    return ⟨scheme, some authority, .segments path, query, fragment⟩
  if scheme = "file" then do
    let (host, path) ← parseFile body
    return ⟨scheme, some ⟨"", host, none⟩, .segments path, query, fragment⟩
  else if special then withAuthority (body.dropWhile (isSlash true))
  else
    match body with
    | '/' :: '/' :: body => withAuthority body
    | '/' :: body =>
      return ⟨scheme, none, .segments (readPath scheme body).segments, query, fragment⟩
    | body => return ⟨scheme, none, .plain (EncodeSet.controls.encode body), query, fragment⟩

/-- The segments of a path as a directory.  A file's path that does not end in a slash
is brought into the normal form once more. -/
def directory (scheme : String) (segments : List String) : List String :=
  match segments with
  | [] => []
  | first :: rest =>
    if segments.getLast? = some "" then segments.dropLast
    else if scheme = "file" ∧ isDriveLetter first.toList then driveText first.toList :: rest
    else segments

/-- The URL of a path below a URL, which is taken as a directory; query and fragment
are dropped.  A URL without a hierarchy has nothing below it. -/
def child? (url : Url) (path : List String) : Option Url :=
  match url.path with
  | .plain _ => none
  | .segments segments =>
    let path := directory url.scheme segments ++ path
    some { url with path := .segments path, query := none, fragment := none }

/-- The URL of a host that is given with or without a scheme. -/
def ofHost? (host : String) : Option Url :=
  let trimmed := Text.trim host
  if Text.occursIn "://".toList trimmed.toList then parse? trimmed
  else parse? ("https://" ++ trimmed)

end Url
end LiveConfig

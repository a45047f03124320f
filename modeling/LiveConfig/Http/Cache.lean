import LiveConfig.Number.Decimal
import LiveConfig.Text.Blank

/-!
# The cache of responses

At most `capacity` responses are kept by their URI, the least recently used one
giving way to a new one.  A response is kept if it may be and if it names a maximal
age or a tag by which it can be revalidated.  Times are nanoseconds on a clock that
counts seconds up to a last one.  An expiry past that is a fault, and one in the middle
of a change leaves the cache unusable: no operation that has to enter it returns after
that.
-/

namespace LiveConfig
namespace Http

structure Response where
  status : Nat
  /-- Header names are in lower case. -/
  headers : List (String × String)
  body : List UInt8
  deriving Inhabited

def Response.header? (response : Response) (name : String) : Option String :=
  response.headers.lookup name

/-- The directives of a `Cache-Control` header that matter; the age is in seconds. -/
structure CacheControl where
  noStore : Bool := false
  noCache : Bool := false
  maxAge : Option Nat := none
  deriving DecidableEq, Inhabited

namespace CacheControl

def add (control : CacheControl) (directive : List Char) : CacheControl :=
  let directive := (Text.trimChars directive).map Char.toLower
  let name := directive.takeWhile (· != '=')
  match directive.dropWhile (· != '=') with
  | '=' :: seconds =>
    if name = "max-age".toList then
      { control with maxAge := (uint64OfText? (Text.trimChars seconds)).map (·.toNat) }
    else control
  | _ =>
    if directive = "no-store".toList then { control with noStore := true }
    else if directive = "no-cache".toList then { control with noCache := true }
    else control

/-- The directives between commas, in any case; of several ages the last counts. -/
def parse (header : Option String) : CacheControl :=
  (Text.splitChars ',' (header.getD "").toList).foldl add {}

def ofResponse (response : Response) : CacheControl := parse (response.header? "cache-control")

end CacheControl

structure CacheEntry where
  body : List UInt8
  etag : Option String
  expiresAt : Nat
  deriving DecidableEq, Inhabited

def CacheEntry.isFresh (entry : CacheEntry) (now : Nat) : Bool := now < entry.expiresAt

inductive CacheFault
  | clockOverflow
  | unusable
  deriving DecidableEq, Inhabited

/-- The last second that the clock can count. -/
def lastSecond : Nat := 0x7FFFFFFFFFFFFFFF

/-- When a response that arrives now expires; a response that has to be revalidated
expires at once. -/
def CacheControl.expiry? (control : CacheControl) (now : Nat) : Option Nat :=
  if control.noCache then some now
  else
    let age := control.maxAge.getD 0
    if lastSecond < now / 1000000000 + age then none else some (now + 1000000000 * age)

/-- The kept responses, the most recently used first. -/
structure ResponseCache where
  capacity : Nat
  entries : List (String × CacheEntry) := []
  usable : Bool := true
  deriving Inhabited

namespace ResponseCache

/-- A cache for at least one response. -/
def ofCapacity (capacity : Nat) : ResponseCache := { capacity := max 1 capacity }

def size (cache : ResponseCache) : Except CacheFault Nat :=
  if cache.usable then .ok cache.entries.length else .error .unusable

/-- Drops all entries. -/
def clear (cache : ResponseCache) : ResponseCache × Except CacheFault Unit :=
  if cache.usable then ({ cache with entries := [] }, .ok ()) else (cache, .error .unusable)

def without (uri : String) (entries : List (String × CacheEntry)) : List (String × CacheEntry) :=
  entries.filter (·.1 != uri)

/-- Puts an entry first, in place of one with its URI or of the last one too many. -/
def put (cache : ResponseCache) (uri : String) (entry : CacheEntry) : ResponseCache :=
  { cache with entries := ((uri, entry) :: without uri cache.entries).take cache.capacity }

/-- The entry of a URI, which becomes the most recently used one. -/
def get (cache : ResponseCache) (uri : String) :
    ResponseCache × Except CacheFault (Option CacheEntry) :=
  if !cache.usable then (cache, .error .unusable)
  else
    match cache.entries.lookup uri with
    | some entry =>
      ({ cache with entries := (uri, entry) :: without uri cache.entries }, .ok (some entry))
    | none => (cache, .ok none)

/-- Keeps a response if it may be kept, and answers its entry. -/
def store (cache : ResponseCache) (uri : String) (response : Response) (now : Nat) :
    ResponseCache × Except CacheFault (Option CacheEntry) :=
  let control := CacheControl.ofResponse response
  let etag := response.header? "etag"
  if control.noStore || (control.maxAge.isNone && etag.isNone) then (cache, .ok none)
  else
    match control.expiry? now with
    | none => (cache, .error .clockOverflow)
    | some expiresAt =>
      if !cache.usable then (cache, .error .unusable)
      else
        let entry : CacheEntry := ⟨response.body, etag, expiresAt⟩
        (cache.put uri entry, .ok (some entry))

/-- Takes over what the response to a revalidation says about freshness, if it says
anything, and its tag. -/
def revalidated (cache : ResponseCache) (uri : String) (response : Response) (now : Nat) :
    ResponseCache × Except CacheFault Unit :=
  let control := CacheControl.ofResponse response
  if control = {} then (cache, .ok ())
  else if !cache.usable then (cache, .error .unusable)
  else
    match cache.entries.lookup uri with
    | none => (cache, .ok ())
    | some entry =>
      match control.expiry? now with
      | none => ({ cache with usable := false }, .error .clockOverflow)
      | some expiresAt =>
        let etag := (response.header? "etag").or entry.etag
        (cache.put uri { entry with expiresAt, etag }, .ok ())

end ResponseCache
end Http
end LiveConfig

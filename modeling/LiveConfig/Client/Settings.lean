import LiveConfig.Backoff
import LiveConfig.Evaluation

/-!
# Settings of a client
-/

namespace LiveConfig

/-- Where a client gets its configurations from. -/
inductive DataSource
  | remote
  | localOnly
  /-- A snapshot file and its content, which is `none` for a file that does not exist. -/
  | localFile (path : String) (content : Option (List UInt8))
  deriving Inhabited

/-- What a caller gets whose wait for the first configurations runs out. -/
inductive OnTimeout
  /-- An error. -/
  | raise
  /-- What is loaded so far. -/
  | unlock
  deriving DecidableEq, Inhabited

structure ClientSettings where
  sdkKey : String := ""
  apiHosts : List String := ["https://primary.reforge.com", "https://secondary.reforge.com"]
  streamHosts : List String := ["https://stream.reforge.com"]
  source : DataSource := .remote
  onTimeout : OnTimeout := .raise
  initializationTimeout : Duration := .ofMillis 10000
  requestTimeout : Duration := .ofMillis 5000
  backoff : Backoff := {}
  cacheCapacity : Nat := 16
  globals : ContextSet := .empty
  ambient : ContextSet := .empty
  /-- Local values below and above what the server delivers. -/
  baseline : List (String × Json) := []
  overrides : List (String × Json) := []
  environment : Environment := fun _ => none

/-- The settings for a key, without the blanks around it. -/
def ClientSettings.ofSdkKey (key : String) : ClientSettings := { sdkKey := Text.trim key }

end LiveConfig

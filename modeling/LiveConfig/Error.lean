import LiveConfig.Value.Local

/-!
# Errors of the client
-/

namespace LiveConfig

/-- Kinds of input and output errors. -/
inductive IoKind
  | notFound
  | other
  deriving DecidableEq, Inhabited

inductive Error
  | initializationTimeout (timeout : Duration)
  | missingSdkKey
  | invalidHostUrl (host : String)
  | unauthorized
  | requestTimeout (uri : String)
  | hostsExhausted (attempts : Nat) (lastError : String)
  | unexpectedStatus (status : Nat) (uri : String)
  | zeroByteConfig
  | invalidPayload
  | invalidBase64
  | invalidLocalValue (key : String) (fault : LocalFault)
  | io (kind : IoKind) (text : String)
  | syncPanicked
  deriving Inhabited

def Error.message : Error → String
  | initializationTimeout timeout => "client did not initialize within " ++ timeout.text
  | missingSdkKey => "sdk key is not set"
  | invalidHostUrl host => "invalid host url: " ++ host
  | unauthorized => "unauthorized, sdk_key is likely invalid"
  | requestTimeout uri => "request to " ++ uri ++ " timed out"
  | hostsExhausted attempts lastError =>
    "all " ++ toString attempts ++ " hosts failed, last error: " ++ lastError
  | unexpectedStatus status uri =>
    "unexpected response status " ++ toString status ++ " from " ++ uri
  | zeroByteConfig => "zero-byte config data is not valid"
  | invalidPayload => "invalid config payload"
  | invalidBase64 => "invalid base64 in stream frame"
  | invalidLocalValue key fault => "invalid local value for " ++ key ++ ": " ++ fault.message
  | io _ text => text
  | syncPanicked => "config sync thread panicked"

end LiveConfig

import LiveConfig.Text.Blank

/-!
# Log levels

A level is read from its name in any case, with white space around it allowed.
-/

namespace LiveConfig

inductive LogLevel
  | trace
  | debug
  | info
  | warn
  | error
  | fatal
  deriving DecidableEq, Inhabited

namespace LogLevel

def all : List LogLevel := [trace, debug, info, warn, error, fatal]

def name : LogLevel → String
  | trace => "TRACE"
  | debug => "DEBUG"
  | info => "INFO"
  | warn => "WARN"
  | error => "ERROR"
  | fatal => "FATAL"

def ofName? (name : String) : Option LogLevel := all.find? (·.name == name)

/-- The level that a text names. -/
def ofText? (text : String) : Option LogLevel := ofName? (Text.asciiUpper (Text.trim text))

/-- The level at which a logger without a fatal level lets messages through. -/
def filter : LogLevel → LogLevel
  | fatal => error
  | level => level

def rank : LogLevel → Nat
  | trace => 0
  | debug => 1
  | info => 2
  | warn => 3
  | error => 4
  | fatal => 5

end LogLevel
end LiveConfig

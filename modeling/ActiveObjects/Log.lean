/-! # Log lines -/

namespace ActiveObjects

inductive LogLevel where
  | trace
  | debug
  | info
  | warn
deriving DecidableEq, Repr

def LogLevel.name : LogLevel → String
  | trace => "TRACE"
  | debug => "DEBUG"
  | info => "INFO"
  | warn => "WARN"

structure LogLine where
  level : LogLevel
  message : String
deriving DecidableEq, Repr

end ActiveObjects

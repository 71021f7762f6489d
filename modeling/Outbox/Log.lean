namespace Outbox.Log

inductive Level where
  | debug
  | info
  | warn
  | error
  deriving DecidableEq, Repr

def Level.name : Level → String
  | debug => "DEBUG"
  | info  => "INFO"
  | warn  => "WARN"
  | error => "ERROR"

inductive Value where
  | text (s : String)
  | number (n : Nat)
  | flag (b : Bool)
  deriving DecidableEq, Repr

structure Event where
  level   : Level
  message : String
  fields  : List (String × Value)
  deriving DecidableEq, Repr

end Outbox.Log

namespace Outbox

inductive Violation where
  | emptyField (field : String)
  | invalidFormat (field reason : String)
  deriving DecidableEq, Repr

namespace Violation

def field : Violation → String
  | emptyField field      => field
  | invalidFormat field _ => field

def kind : Violation → String
  | emptyField _     => "EmptyField"
  | invalidFormat .. => "InvalidFormat"

def message : Violation → String
  | emptyField field           => s!"Field '{field}' cannot be empty"
  | invalidFormat field reason => s!"Field '{field}' has invalid format: {reason}"

end Violation

end Outbox

import Outbox.Scope
import Outbox.Statement

namespace Outbox

namespace Executor

inductive Failure where
  | database (text : String)
  | invalidArgument (position : Nat) (reason : String)
  | interrupted (reason : Stop)
  deriving DecidableEq, Repr

namespace Failure

def kind : Failure → String
  | database _         => "Database"
  | invalidArgument .. => "InvalidArgument"
  | interrupted _      => "Interrupted"

def message : Failure → String
  | database text => s!"database error: {text}"
  | invalidArgument position reason => s!"invalid argument at position {position}: {reason}"
  | interrupted reason => s!"statement interrupted: {reason.message}"

end Failure

structure Call where
  scope     : Scope
  now       : Instant
  statement : String
  arguments : List Argument

-- An answer is a count of rows or a failure. `elapsed` are the nanoseconds from the call to the
-- answer; `cancels` says that the switch of the scope was turned on by the call.
structure Reply where
  answer  : Except Failure Nat
  elapsed : Nat := 0
  cancels : Bool := false

end Executor

abbrev Executor (σ : Type) := Executor.Call → σ → Executor.Reply × σ

namespace Executor

def Call.scopeAfter (call : Call) (reply : Reply) : Scope :=
  if reply.cancels then call.scope.cancel call.now else call.scope

end Executor

end Outbox

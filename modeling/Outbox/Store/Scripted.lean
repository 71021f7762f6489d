import Outbox.Executor

namespace Outbox.Store

-- What happens in one call: the switch is turned on or not, some time may pass, then the answer is
-- given. Unless it is deaf, a call that takes time ends when the scope stops.
structure Scene where
  cancels : Bool := false
  delay   : Option Time.Duration := none
  deaf    : Bool := false
  answer  : Except Executor.Failure Nat

structure Scripted where
  -- What is still to come; behind it every call writes one row at once.
  scenes : List Scene
  calls  : List (Option String × Instant) := []

namespace Scripted

def play (scene : Scene) (scope : Scope) (now : Instant) : Except Executor.Failure Nat × Nat :=
  match scene.delay with
  | none => (scene.answer, 0)
  | some delay =>
    let finish := now.sleepEnd delay
    if scene.deaf then (scene.answer, finish - now)
    else
      match scope.race now finish with
      | .ok t => (scene.answer, t - now)
      | .error (reason, t) => (.error (.interrupted reason), t - now)

def execute : Executor Scripted := fun call s =>
  let scene := s.scenes.head?.getD { answer := .ok 1 }
  let scope := if scene.cancels then call.scope.cancel call.now else call.scope
  let (answer, elapsed) := play scene scope call.now
  ({ answer, elapsed, cancels := scene.cancels },
    { scenes := s.scenes.tail
      calls  := s.calls ++ [(Statement.eventIdOf? call.arguments, call.now)] })

end Scripted

end Outbox.Store

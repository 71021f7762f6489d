import Outbox.Scope

namespace Outbox.Retry

structure Policy where
  maxRetries : UInt32
  unit       : Time.Duration
  deriving DecidableEq, Repr

namespace Policy

-- One attempt more than there are retries, as far as 32 bits count.
def maxAttempts (p : Policy) : Nat :=
  min (p.maxRetries.toNat + 1) 0xffffffff

def backoffAfter (p : Policy) (attempt : Nat) : Time.Duration :=
  p.unit.times attempt

theorem maxAttempts_pos (p : Policy) : 0 < p.maxAttempts := by
  unfold maxAttempts
  omega

end Policy

-- Waits, unless the scope stops first; gives the instant at which the waiting ends. A wait of no
-- length only looks at the scope.
def wait (s : Scope) (now : Instant) (backoff : Time.Duration) : Except (Stop × Instant) Instant :=
  if backoff.isZero then
    match s.stopped? now with
    | some reason => .error (reason, now)
    | none => .ok now
  else s.race now (now.sleepEnd backoff)

end Outbox.Retry

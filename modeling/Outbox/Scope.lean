import Outbox.Time.Duration

namespace Outbox

abbrev Instant := Nat

namespace Instant

-- Who sleeps wakes up at whole milliseconds only.
def wholeMilli (t : Instant) : Instant :=
  (t + (Time.nanosPerMilli - 1)) / Time.nanosPerMilli * Time.nanosPerMilli

-- Later instants than this cannot be told; who would sleep until one sleeps for thirty years.
def greatestSeconds : Nat := 0x7fffffffffffffff

def thirtyYears : Time.Duration := .ofSeconds (30 * 365 * 86400)

def sleepEnd (now : Instant) (d : Time.Duration) : Instant :=
  if (now + d.nanos) / Time.nanosPerSecond ≤ greatestSeconds then wholeMilli (now + d.nanos)
  else wholeMilli (now + thirtyYears.nanos)

theorem le_wholeMilli (t : Instant) : t ≤ wholeMilli t := by
  show @LE.le Nat _ t ((t + (1000000 - 1)) / 1000000 * 1000000)
  omega

theorem le_sleepEnd (now : Instant) (d : Time.Duration) : now ≤ sleepEnd now d := by
  unfold sleepEnd
  split
  · exact Nat.le_trans (Nat.le_add_right ..) (le_wholeMilli _)
  · exact Nat.le_trans (Nat.le_add_right ..) (le_wholeMilli _)

end Instant

structure Switch where
  -- when it is turned on, if ever
  turnedOn : Option Instant
  -- whether there is still someone who can turn it
  held     : Bool
  deriving DecidableEq, Repr

namespace Switch

def turn (s : Switch) (now : Instant) (on : Bool) : Switch :=
  if s.held then { s with turnedOn := if on then some now else none } else s

def letGo (s : Switch) : Switch := { s with held := false }

end Switch

inductive Stop where
  | cancelled
  | deadlineExceeded
  deriving DecidableEq, Repr

def Stop.kind : Stop → String
  | cancelled        => "Cancelled"
  | deadlineExceeded => "DeadlineExceeded"

def Stop.message : Stop → String
  | cancelled        => "context cancelled"
  | deadlineExceeded => "context deadline exceeded"

structure Scope where
  switch   : Option Switch := none
  deadline : Option Instant := none
  deriving DecidableEq, Repr

namespace Scope

def background : Scope := {}

def withSwitch (s : Scope) (switch : Switch) : Scope := { s with switch := some switch }

def withDeadline (s : Scope) (deadline : Instant) : Scope :=
  { s with deadline := some (match s.deadline with
      | some existing => min existing deadline
      | none => deadline) }

def withTimeout (s : Scope) (now : Instant) (timeout : Time.Duration) : Scope :=
  s.withDeadline (now + timeout.nanos)

def cancelledFrom (s : Scope) : Option Instant :=
  s.switch.bind Switch.turnedOn

def cancel (s : Scope) (now : Instant) : Scope :=
  { s with switch := s.switch.map (·.turn now true) }

def isCancelled (s : Scope) (now : Instant) : Bool :=
  s.cancelledFrom.any (· ≤ now)

def isExpired (s : Scope) (now : Instant) : Bool :=
  s.deadline.any (· ≤ now)

def stopped? (s : Scope) (now : Instant) : Option Stop :=
  if s.isCancelled now then some .cancelled
  else if s.isExpired now then some .deadlineExceeded
  else none

def earlier : Option Instant → Option Instant → Option Instant
  | some s, some t => some (min s t)
  | some s, none   => some s
  | none,   t      => t

-- The instant at which who waits from `now` on is told that the scope has stopped.
def stopInstant? (s : Scope) (now : Instant) : Option Instant :=
  earlier (s.cancelledFrom.map (max now))
    (s.deadline.map fun d => if d ≤ now then now else d.wholeMilli)

-- What the waiting ends with, and when; for ever if the scope never stops.
def awaitStop (s : Scope) (now : Instant) : Option (Stop × Instant) :=
  (s.stopInstant? now).map fun t =>
    (if s.isCancelled t then .cancelled else .deadlineExceeded, t)

-- Runs work that would finish at `finish`; gives the instant at which it does, or why and when it
-- is stopped. Work is not begun in a scope that has stopped.
def race (s : Scope) (now finish : Instant) : Except (Stop × Instant) Instant :=
  match s.stopped? now with
  | some reason => .error (reason, now)
  | none =>
    match s.awaitStop now with
    | some (reason, t) => if finish < t then .ok finish else .error (reason, t)
    | none => .ok finish

def run (s : Scope) (now : Instant) : Option Instant → Option (Except (Stop × Instant) Instant)
  | some finish => some (s.race now finish)
  | none =>
    match s.stopped? now with
    | some reason => some (.error (reason, now))
    | none => (s.awaitStop now).map .error

end Scope

end Outbox

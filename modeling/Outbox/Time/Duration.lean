namespace Outbox.Time

def nanosPerSecond : Nat := 1000000000
def nanosPerMilli : Nat := 1000000

def countLimit : Nat := 0x10000000000000000

-- `nanos` counts all nanoseconds of the span.
structure Duration where
  nanos : Nat
  bound : nanos < countLimit * nanosPerSecond := by decide
  deriving DecidableEq, Repr

namespace Duration

def zero : Duration := { nanos := 0 }

def longest : Duration := { nanos := countLimit * nanosPerSecond - 1 }

def ofNanos (n : Nat) : Duration :=
  if h : n < countLimit * nanosPerSecond then ⟨n, h⟩ else longest

def ofSeconds (n : UInt64) : Duration := ofNanos (n.toNat * nanosPerSecond)

def ofMillis (n : UInt64) : Duration := ofNanos (n.toNat * nanosPerMilli)

def isZero (d : Duration) : Bool := d.nanos == 0

def seconds (d : Duration) : Nat := d.nanos / nanosPerSecond
def subsecond (d : Duration) : Nat := d.nanos % nanosPerSecond

def times (d : Duration) (n : Nat) : Duration := ofNanos (d.nanos * n)

-- The whole milliseconds, as far as 64 bits count them.
def wholeMillis (d : Duration) : Nat := min (d.nanos / nanosPerMilli) (countLimit - 1)

theorem nanos_ofNanos (n : Nat) : (ofNanos n).nanos = min n longest.nanos := by
  have hl : longest.nanos = countLimit * nanosPerSecond - 1 := rfl
  have hp : 0 < countLimit * nanosPerSecond := by decide
  unfold ofNanos
  split <;> simp only [hl] <;> omega

theorem nanos_times (d : Duration) (n : Nat) :
    (d.times n).nanos = min (d.nanos * n) longest.nanos :=
  nanos_ofNanos _

end Duration

end Outbox.Time

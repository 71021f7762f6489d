import Outbox.Time.Calendar
import Outbox.Time.Duration

namespace Outbox.Time

-- Seconds since 1970 and the nanoseconds beyond them; `10 ^ 9` nanoseconds and more stand for the
-- leap second that follows the second.
structure Timestamp where
  secs  : Int
  nanos : Nat
  deriving DecidableEq, Repr

def secondsPerDay : Int := 86400

def epochDay : Int := 719528

def leastYear : Int := -262143
def greatestYear : Int := 262142

namespace Timestamp

def zero : Timestamp := ⟨0, 0⟩

def isZero (t : Timestamp) : Bool := t == zero

instance : Ord Timestamp where
  compare s t := (compare s.secs t.secs).then (compare s.nanos t.nanos)

def leastSecs : Int := (firstDay leastYear - epochDay) * secondsPerDay
def greatestSecs : Int := (firstDay (greatestYear + 1) - epochDay) * secondsPerDay - 1

-- The instants that can be written: the years are limited, and a leap second ends a minute.
def Representable (t : Timestamp) : Prop :=
  leastSecs ≤ t.secs ∧ t.secs ≤ greatestSecs ∧ t.nanos < 2 * nanosPerSecond ∧
    (nanosPerSecond ≤ t.nanos → t.secs % 60 = 59)

instance (t : Timestamp) : Decidable t.Representable := by
  unfold Representable
  infer_instance

theorem isZero_iff {t : Timestamp} : t.isZero ↔ t = zero := by
  simp [isZero]

-- Whole microseconds since 1970. A fraction is dropped toward the start of the year 2000.
def micros (t : Timestamp) : Int :=
  let base : Int := 946684800
  base * 1000000 + ((t.secs - base) * nanosPerSecond + t.nanos).tdiv 1000

end Timestamp

end Outbox.Time

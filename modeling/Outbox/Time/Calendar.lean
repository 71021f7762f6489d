namespace Outbox.Time

def isLeapYear (year : Int) : Bool :=
  year % 4 == 0 && (year % 100 != 0 || year % 400 == 0)

def monthLengths (leap : Bool) : List Nat :=
  [31, if leap then 29 else 28, 31, 30, 31, 30, 31, 31, 30, 31, 30, 31]

def firstDay (year : Int) : Int :=
  365 * year + (year + 3) / 4 - (year + 99) / 100 + (year + 399) / 400

-- The year of a day: a guess by the mean length of a year is off by one at most.
def yearOfDay (day : Int) : Int :=
  let guess := 400 * day / 146097
  if day < firstDay guess then guess - 1
  else if firstDay (guess + 1) ≤ day then guess + 1
  else guess

theorem firstDay_yearOfDay_le (day : Int) : firstDay (yearOfDay day) ≤ day := by
  unfold yearOfDay firstDay
  simp only
  split
  · omega
  · split <;> omega

theorem lt_firstDay_yearOfDay (day : Int) : day < firstDay (yearOfDay day + 1) := by
  unfold yearOfDay
  simp only
  split
  case isTrue h => simpa using h
  case isFalse =>
    split
    case isTrue => unfold firstDay; omega
    case isFalse h => omega

structure Date where
  year  : Int
  month : Nat
  day   : Nat
  deriving DecidableEq, Repr

-- The month, counted on from `month`, and the day in it, of a day counted from zero.
def monthOfDay (month : Nat) (day : Nat) : List Nat → Nat × Nat
  | []      => (month, day)
  | [_]     => (month, day)
  | n :: ns => if day < n then (month, day) else monthOfDay (month + 1) (day - n) ns

namespace Date

def lengths (d : Date) : List Nat := monthLengths (isLeapYear d.year)

def isValid (d : Date) : Bool :=
  1 ≤ d.month && d.month ≤ 12 && 1 ≤ d.day && d.day ≤ (d.lengths[d.month - 1]?).getD 0

def dayNumber (d : Date) : Int :=
  firstDay d.year + ((d.lengths.take (d.month - 1)).foldl (· + ·) 0 : Nat) + (d.day : Int) - 1

def ofDay (day : Int) : Date :=
  let year := yearOfDay day
  let (month, d) := monthOfDay 1 (day - firstDay year).toNat (monthLengths (isLeapYear year))
  ⟨year, month, d + 1⟩

example : (⟨1970, 1, 1⟩ : Date).dayNumber = 719528 := by decide
example : ofDay 719527 = ⟨1969, 12, 31⟩ := by decide
example : ofDay (-1) = ⟨-1, 12, 31⟩ := by decide

end Date

end Outbox.Time

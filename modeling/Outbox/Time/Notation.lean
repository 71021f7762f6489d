import Outbox.Text.Blank
import Outbox.Time.Timestamp

namespace Outbox.Time

def padded (width n : Nat) : List Char :=
  let ds := Nat.toDigits 10 n
  List.replicate (width - ds.length) '0' ++ ds

namespace Timestamp

def writeYear (year : Int) : List Char :=
  if 0 ≤ year ∧ year ≤ 9999 then padded 4 year.toNat
  else (if year < 0 then '-' else '+') :: padded 4 year.natAbs

def writeFraction (nanos : Nat) : List Char :=
  if nanos = 0 then []
  else if nanos % 1000000 = 0 then '.' :: padded 3 (nanos / 1000000)
  else if nanos % 1000 = 0 then '.' :: padded 6 (nanos / 1000)
  else '.' :: padded 9 nanos

def write (t : Timestamp) : List Char :=
  let date := Date.ofDay (t.secs / secondsPerDay + epochDay)
  let clock := (t.secs % secondsPerDay).toNat
  let leap := t.nanos / nanosPerSecond
  writeYear date.year ++ '-' :: padded 2 date.month ++ '-' :: padded 2 date.day
    ++ 'T' :: padded 2 (clock / 3600) ++ ':' :: padded 2 (clock / 60 % 60)
    ++ ':' :: padded 2 (clock % 60 + leap) ++ writeFraction (t.nanos % nanosPerSecond) ++ ['Z']

def numberOf (digits : List Char) : Nat :=
  digits.foldl (fun n c => n * 10 + (c.toNat - '0'.toNat)) 0

def skipBlanks (s : List Char) : List Char := s.dropWhile Text.isBlank

def readDigits (least most : Nat) (s : List Char) : Option (Nat × List Char) :=
  let digits := (s.take most).takeWhile Char.isDigit
  if least ≤ digits.length then some (numberOf digits, s.drop digits.length) else none

def readNumber (s : List Char) : Option (Nat × List Char) :=
  readDigits 1 2 (skipBlanks s)

-- A year has up to four digits, or a sign and any number of them.
def readYear (s : List Char) : Option (Int × List Char) :=
  match skipBlanks s with
  | '-' :: r => (readDigits 1 r.length r).map fun (n, r) => (-n, r)
  | '+' :: r => (readDigits 1 r.length r).map fun (n, r) => (n, r)
  | s => (readDigits 1 4 s).map fun (n, r) => (n, r)

def readMark (marks : List Char) (s : List Char) : Option (List Char) :=
  match s with
  | c :: r => if marks.contains c then some r else none
  | [] => none

def readDate (s : List Char) : Option (Date × List Char) := do
  let (year, s) ← readYear s
  let s ← readMark ['-'] (skipBlanks s)
  let (month, s) ← readNumber s
  let s ← readMark ['-'] (skipBlanks s)
  let (day, s) ← readNumber s
  return (⟨year, month, day⟩, s)

-- The nanoseconds of the decimals; those beyond the ninth are cut off.
def readFraction (s : List Char) : Option (Nat × List Char) :=
  match s with
  | '.' :: s =>
    let digits := s.takeWhile Char.isDigit
    if digits.isEmpty then none
    else
      let kept := digits.take 9
      some (numberOf kept * Nat.pow 10 (9 - kept.length), s.dropWhile Char.isDigit)
  | _ => some (0, s)

-- Seconds of the day and nanoseconds. Second sixty is the leap second that follows second
-- fifty-nine.
def readClock (s : List Char) : Option (Int × Nat × List Char) := do
  let (hour, s) ← readNumber s
  let s ← readMark [':'] (skipBlanks s)
  let (minute, s) ← readNumber s
  let s ← readMark [':'] (skipBlanks s)
  let (second, s) ← readNumber s
  let (nanos, s) ← readFraction s
  if 23 < hour ∨ 59 < minute ∨ 60 < second then none
  else
    let minutes : Int := hour * 60 + minute
    if second = 60 then return (minutes * 60 + 59, nanosPerSecond + nanos, s)
    else return (minutes * 60 + second, nanos, s)

def minusSign : Char := Char.ofNat 0x2212

-- Seconds east of Greenwich. Colons and blanks may stand between hours and minutes.
def readOffset (s : List Char) : Option (Int × List Char) :=
  if (s.take 3).map Char.toUpper = ['U', 'T', 'C'] then some (0, s.drop 3)
  else
    match s with
    | 'Z' :: r | 'z' :: r => some (0, r)
    | sign :: r => do
      if sign ≠ '+' ∧ sign ≠ '-' ∧ sign ≠ minusSign then none
      let (hours, r) ← readDigits 2 2 r
      let (minutes, r) ← readDigits 2 2 (r.dropWhile fun c => c == ':' || Text.isBlank c)
      if 23 < hours ∨ 59 < minutes then none
      let seconds : Int := (hours * 60 + minutes : Nat) * 60
      return (if sign = '+' then seconds else -seconds, r)
    | [] => none

def read (s : List Char) : Option Timestamp := do
  let (date, s) ← readDate s
  let s ← readMark ['T', 't', ' '] s
  let (clock, nanos, s) ← readClock s
  let (offset, s) ← readOffset (skipBlanks s)
  if !(skipBlanks s).isEmpty then none
  if !date.isValid ∨ date.year < leastYear ∨ greatestYear < date.year then none
  let secs := (date.dayNumber - epochDay) * secondsPerDay + clock - offset
  if secs < leastSecs ∨ greatestSecs < secs then none
  return ⟨secs, nanos⟩

example : read " 2024-1-15 t 10:30:00.5 utc".toList = none := by decide +kernel
example : read " 2024-1 -15 10 : 30:0.5 utc ".toList = read "2024-01-15T10:30:00.500Z".toList := by
  decide +kernel

end Timestamp

end Outbox.Time

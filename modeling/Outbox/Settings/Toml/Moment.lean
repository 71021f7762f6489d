import Outbox.Time.Notation

namespace Outbox.Toml

open Time
open Time.Timestamp (readDigits readFraction readMark)

structure Clock where
  hour   : Nat
  minute : Nat
  second : Nat
  nanos  : Nat
  deriving DecidableEq, Repr

inductive Offset where
  | none
  | universal
  | minutes (m : Int)
  deriving DecidableEq, Repr

inductive Moment where
  | date (d : Date)
  | clock (c : Clock)
  | full (d : Date) (c : Clock) (offset : Offset)
  deriving DecidableEq, Repr

-- The greatest numbers that are taken for hours and minutes.
structure Bounds where
  hour         : Nat
  offsetHour   : Nat
  offsetMinute : Nat

def Bounds.plain : Bounds := ⟨23, 23, 59⟩

def Bounds.quoted : Bounds := ⟨24, 99, 99⟩

def date? (s : List Char) : Option (Date × List Char) := do
  let (year, s) ← readDigits 4 4 s
  let s ← readMark ['-'] s
  let (month, s) ← readDigits 2 2 s
  let s ← readMark ['-'] s
  let (day, s) ← readDigits 2 2 s
  let d : Date := ⟨year, month, day⟩
  if d.isValid then return (d, s) else none

def clock? (b : Bounds) (s : List Char) : Option (Clock × List Char) := do
  let (hour, s) ← readDigits 2 2 s
  let s ← readMark [':'] s
  let (minute, s) ← readDigits 2 2 s
  let s ← readMark [':'] s
  let (second, s) ← readDigits 2 2 s
  let (nanos, s) ← readFraction s
  if b.hour < hour ∨ 59 < minute ∨ 60 < second then none
  return (⟨hour, minute, second, nanos⟩, s)

-- An offset has no more than twenty-four hours.
def offset? (b : Bounds) (s : List Char) : Option (Offset × List Char) :=
  match s with
  | 'Z' :: s | 'z' :: s => some (.universal, s)
  | sign :: r =>
    if sign = '+' ∨ sign = '-' then do
      let (hours, r) ← readDigits 2 2 r
      let r ← readMark [':'] r
      let (minutes, r) ← readDigits 2 2 r
      let total : Nat := hours * 60 + minutes
      if b.offsetHour < hours ∨ b.offsetMinute < minutes ∨ 24 * 60 < total then none
      return (.minutes (if sign = '-' then -(total : Int) else total), r)
    else some (.none, s)
  | [] => some (.none, [])

def moment? (b : Bounds) (s : List Char) : Option (Moment × List Char) :=
  match date? s with
  | some (d, rest) =>
    match readMark ['T', 't', ' '] rest >>= clock? b with
    | some (c, rest) => (offset? b rest).map fun (offset, rest) => (.full d c offset, rest)
    | none => some (.date d, rest)
  | none => (clock? b s).map fun (c, rest) => (.clock c, rest)

def Moment.ofText? (s : List Char) : Option Moment :=
  match moment? .quoted s with
  | some (m, []) => some m
  | _            => none

def dateText (d : Date) : List Char :=
  padded 4 d.year.toNat ++ '-' :: padded 2 d.month ++ '-' :: padded 2 d.day

def Clock.text (c : Clock) : List Char :=
  let fraction := ((padded 9 c.nanos).reverse.dropWhile (· == '0')).reverse
  padded 2 c.hour ++ ':' :: padded 2 c.minute ++ ':' :: padded 2 c.second
    ++ (if fraction.isEmpty then [] else '.' :: fraction)

def Offset.text : Offset → List Char
  | .none      => []
  | .universal => ['Z']
  | .minutes m =>
    (if m < 0 then '-' else '+') :: padded 2 (m.natAbs / 60) ++ ':' :: padded 2 (m.natAbs % 60)

def Moment.text : Moment → String
  | .date d          => String.ofList (dateText d)
  | .clock c         => String.ofList c.text
  | .full d c offset => String.ofList (dateText d ++ 'T' :: c.text ++ offset.text)

example : (Moment.ofText? "1979-05-27 07:32:00.50+00:30".toList).map Moment.text =
    some "1979-05-27T07:32:00.5+00:30" := by decide +kernel
example : Moment.ofText? "1979-02-29".toList = none := by decide +kernel

end Outbox.Toml

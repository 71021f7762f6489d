namespace Outbox.Decimal

-- The integer nearest to `num / den`; of two equally near ones the even one.
def nearest (num den : Nat) : Nat :=
  let q := num / den
  let r := num % den
  if 2 * r < den then q
  else if den < 2 * r then q + 1
  else q + q % 2

-- The finite magnitude `mantissa · 2 ^ exponent`, where `mantissa < 2 ^ 53`,
-- `-1074 ≤ exponent ≤ 971`, and the exponent is the least one possible.
structure Binary64 where
  mantissa : Nat
  exponent : Int
  deriving DecidableEq, Repr

namespace Binary64

def leastExponent : Int := -1074
def greatestExponent : Int := 971

def zero : Binary64 := ⟨0, leastExponent⟩

def isZero (x : Binary64) : Bool := x.mantissa == 0

def inUnits (num den : Nat) (e : Int) : Nat × Nat :=
  (num * Nat.pow 2 (-e).toNat, den * Nat.pow 2 e.toNat)

def ofRatio? (num den : Nat) : Option Binary64 :=
  if num = 0 then some zero
  else
    let low := max leastExponent ((num.log2 : Int) - den.log2 - 53)
    let (n, d) := inUnits num den low
    let e := if n / d < 0x20000000000000 then low else low + 1
    let (n, d) := inUnits num den e
    let m := nearest n d
    let x : Binary64 := if m < 0x20000000000000 then ⟨m, e⟩ else ⟨0x10000000000000, e + 1⟩
    if x.exponent ≤ greatestExponent then some x else none

def ofNat? (n : Nat) : Option Binary64 :=
  ofRatio? n 1

def num (x : Binary64) : Nat := x.mantissa * Nat.pow 2 x.exponent.toNat
def den (x : Binary64) : Nat := Nat.pow 2 (-x.exponent).toNat

def mul? (x y : Binary64) : Option Binary64 :=
  ofRatio? (x.num * y.num) (x.den * y.den)

def div? (x y : Binary64) : Option Binary64 :=
  ofRatio? (x.num * y.den) (x.den * y.num)

-- The number nearest to `digits · 10 ^ e`. The guards only spare the work of a power that is sure
-- to be too large or too small.
def ofDecimal? (digits : Nat) (e : Int) : Option Binary64 :=
  let length : Int := (Nat.toDigits 10 digits).length
  if digits = 0 then some zero
  else if 310 < length + e then none
  else if length + e < -330 then some zero
  else ofRatio? (digits * Nat.pow 10 e.toNat) (Nat.pow 10 (-e).toNat)

def roundHalfUp (x : Binary64) : Nat := (2 * x.num + x.den) / (2 * x.den)

example : ofRatio? 1 10 = some ⟨0x1999999999999a, -56⟩ := by decide +kernel
example : ofDecimal? 5 (-324) = some ⟨1, -1074⟩ := by decide +kernel
example : ofDecimal? 18 307 = none := by decide +kernel

end Binary64

end Outbox.Decimal

import Outbox.Decimal.Binary64

namespace Outbox.Decimal

structure Numeral where
  digits   : Nat
  exponent : Int
  deriving DecidableEq, Repr

namespace Numeral

def digitChars (d : Numeral) : List Char := Nat.toDigits 10 d.digits

-- How many digits stand before the point; zero or less for a fraction below one.
def point (d : Numeral) : Int := d.digitChars.length + d.exponent

def positional (d : Numeral) : List Char :=
  let ds := d.digitChars
  if 0 ≤ d.exponent then ds ++ List.replicate d.exponent.toNat '0'
  else if 0 < d.point then ds.take d.point.toNat ++ '.' :: ds.drop d.point.toNat
  else '0' :: '.' :: List.replicate (-d.point).toNat '0' ++ ds

end Numeral

namespace Binary64

structure Interval where
  low    : Nat
  value  : Nat
  high   : Nat
  den    : Nat
  closed : Bool

-- Half the way to either neighbour; the ends belong to an even mantissa. Below a power of two the
-- neighbour is half as far.
def interval (x : Binary64) : Interval :=
  let unit := Nat.pow 2 x.exponent.toNat
  let below := if x.mantissa = 0x10000000000000 ∧ leastExponent < x.exponent then 1 else 2
  { low := (4 * x.mantissa - below) * unit
    value := 4 * x.mantissa * unit
    high := (4 * x.mantissa + 2) * unit
    den := 4 * x.den
    closed := x.mantissa % 2 == 0 }

def Interval.contains (i : Interval) (n d : Nat) : Bool :=
  let a := n * i.den
  (i.low * d < a && a < i.high * d) || (i.closed && (i.low * d == a || a == i.high * d))

def Interval.magnitude (i : Interval) : Int :=
  (Nat.toDigits 10 (i.value * Nat.pow 10 400 / i.den)).length - 400

inductive Tie where
  | toEven
  | up
  deriving DecidableEq, Repr

def Tie.goesUp (tie : Tie) (below : Nat) : Bool :=
  match tie with
  | toEven => below % 2 == 1
  | up     => true

-- The better of the two neighbours of the value on the grid of `count` digits that read back.
def Interval.onGrid (i : Interval) (tie : Tie) (count : Nat) : Option Numeral :=
  let e := i.magnitude - count
  let up := Nat.pow 10 e.toNat
  let down := Nat.pow 10 (-e).toNat
  let below := i.value * down / (i.den * up)
  let reads (n : Nat) : Bool := i.contains (n * up) down
  -- twice the middle of the two neighbours, and twice the value
  let middle := (2 * below + 1) * up * i.den
  let value := 2 * i.value * down
  let upper := middle < value || (middle == value && tie.goesUp below)
  match reads below, reads (below + 1) with
  | true,  true  => some ⟨if upper then below + 1 else below, e⟩
  | true,  false => some ⟨below, e⟩
  | false, true  => some ⟨below + 1, e⟩
  | false, false => none

-- The fewest digits that read back; of two such decimals the nearer one.
def shortest (tie : Tie) (x : Binary64) : Numeral :=
  if x.isZero then ⟨0, 0⟩
  else
    let i := x.interval
    match (List.range 17).findSome? fun k => i.onGrid tie (k + 1) with
    | some d => if d.digits % 10 = 0 then ⟨d.digits / 10, d.exponent + 1⟩ else d
    | none => ⟨i.value / i.den, 0⟩

example : shortest .up ⟨0x1999999999999a, -56⟩ = ⟨1, -1⟩ := by decide +kernel
example : shortest .up ⟨1, -1074⟩ = ⟨5, -324⟩ := by decide +kernel
example : shortest .up ⟨2, -1074⟩ = ⟨1, -323⟩ := by decide +kernel
example : shortest .up ⟨0x1fffffffffffff, 971⟩ = ⟨17976931348623157, 292⟩ := by decide +kernel
example : shortest .up ⟨0x10000000000001, -2⟩ = ⟨11258999068426243, -1⟩ := by decide +kernel
example : shortest .toEven ⟨0x10000000000001, -2⟩ = ⟨11258999068426242, -1⟩ := by decide +kernel

end Binary64

end Outbox.Decimal

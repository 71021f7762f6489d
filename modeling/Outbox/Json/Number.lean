import Outbox.Json.Tree
import Outbox.Decimal.Shortest

namespace Outbox.Json

open Decimal

-- `integer i` has `-2 ^ 63 ≤ i < 2 ^ 64`.
inductive Number where
  | integer (i : Int)
  | double (negative : Bool) (magnitude : Binary64)
  deriving DecidableEq, Repr

namespace Number

def digitValue (c : Char) : Nat := c.toNat - '0'.toNat

-- Takes digits on while the significand fits 64 bits; also gives those that are left.
def significand (acc : Nat) : List Char → Nat × List Char
  | [] => (acc, [])
  | c :: ds =>
    let next := acc * 10 + digitValue c
    if next < 0x10000000000000000 then significand next ds else (acc, c :: ds)

def powerOfTen (k : Nat) : Binary64 :=
  (Binary64.ofNat? (Nat.pow 10 k)).getD Binary64.zero

-- Powers of ten beyond the largest double are divided by in steps. Two steps leave nothing of a
-- 64-bit significand, so three `rounds` are enough.
def scale (rounds : Nat) (x : Binary64) (e : Int) : Except Fault Binary64 :=
  match rounds with
  | 0 => .ok Binary64.zero
  | rounds + 1 =>
    if e.natAbs ≤ 308 then
      if 0 ≤ e then
        match x.mul? (powerOfTen e.natAbs) with
        | some y => .ok y
        | none => .error .malformed
      else .ok ((x.div? (powerOfTen e.natAbs)).getD Binary64.zero)
    else if x.isZero then .ok x
    else if 0 ≤ e then .error .malformed
    else scale rounds ((x.div? (powerOfTen 308)).getD Binary64.zero) (e + 308)

def ofParts (negative : Bool) (n : Nat) (e : Int) : Except Fault Number := do
  let x ← scale 3 ((Binary64.ofNat? n).getD Binary64.zero) e
  return .double negative x

def greatestExponent : Nat := 0x7fffffff

-- An exponent beyond 31 bits is not looked at further: the number is zero or too large.
def withExponent (negative : Bool) (n : Nat) (e : Int) (x : Exponent) : Except Fault Number :=
  let k := x.digits.foldl (fun k c => k * 10 + digitValue c) 0
  let down := x.sign == some '-'
  if greatestExponent < k then
    if n ≠ 0 ∧ !down then .error .malformed else .ok (.double negative Binary64.zero)
  else ofParts negative n (if down then e - k else e + k)

def ofNumeral (l : Numeral) : Except Fault Number :=
  let (n, left) := significand 0 l.whole
  match left, l.fraction, l.exponent with
  | [], none, none =>
    if !l.negative then .ok (.integer n)
    else if 0 < n ∧ n ≤ 0x8000000000000000 then .ok (.integer (-n))
    else ofParts true n 0
  | _, fraction, exponent =>
    let (m, rest) := significand n (fraction.getD [])
    let e : Int := left.length + rest.length - (fraction.getD []).length
    match exponent with
    | some x => withExponent l.negative m e x
    | none => ofParts l.negative m e

def natDigits (n : Nat) : List Char := Nat.toDigits 10 n

-- A double is written with the fewest digits that read back, with a point, and positionally from
-- `0.00001` up to sixteen digits before the point; else with an exponent that has a sign.
def toNumeral : Number → Numeral
  | .integer i => ⟨i < 0, natDigits i.natAbs, none, none⟩
  | .double negative x =>
    let d := x.shortest .toEven
    let ds := d.digitChars
    let point := d.point
    if x.isZero then ⟨negative, ['0'], some ['0'], none⟩
    else if 0 ≤ d.exponent ∧ point ≤ 16 then
      ⟨negative, ds ++ List.replicate d.exponent.toNat '0', some ['0'], none⟩
    else if 0 < point ∧ point ≤ 16 then
      ⟨negative, ds.take point.toNat, some (ds.drop point.toNat), none⟩
    else if -5 < point ∧ point ≤ 0 then
      ⟨negative, ['0'], some (List.replicate (-point).toNat '0' ++ ds), none⟩
    else
      let e := point - 1
      ⟨negative, ds.take 1, if ds.tail.isEmpty then none else some ds.tail,
        some ⟨'e', some (if e < 0 then '-' else '+'), natDigits e.natAbs⟩⟩

end Number

end Outbox.Json

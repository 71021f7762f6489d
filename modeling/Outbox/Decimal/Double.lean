import Outbox.Decimal.Integer
import Outbox.Decimal.Shortest

namespace Outbox.Decimal

inductive Double where
  | finite (negative : Bool) (magnitude : Binary64)
  | infinite (negative : Bool)
  | nan
  deriving DecidableEq, Repr

namespace Double

-- The number nearest to `digits · 10 ^ e`; beyond the largest one it is infinite.
def ofDecimal (negative : Bool) (digits : Nat) (e : Int) : Double :=
  match Binary64.ofDecimal? digits e with
  | some x => finite negative x
  | none => infinite negative

def ofInteger (i : Int) : Double := ofDecimal (i < 0) i.natAbs 0

def exponent? : List Char → Option Int
  | '-' :: digits => (natural? digits).map fun n => -(n : Int)
  | '+' :: digits => (natural? digits).map fun n => n
  | digits        => (natural? digits).map fun n => n

def decimal? (negative : Bool) (s : List Char) : Option Double := do
  let whole := s.takeWhile Char.isDigit
  let s := s.dropWhile Char.isDigit
  let (fraction, s) := match s with
    | '.' :: s => (s.takeWhile Char.isDigit, s.dropWhile Char.isDigit)
    | s => ([], s)
  if whole.isEmpty && fraction.isEmpty then none
  let e ← match s with
    | [] => some 0
    | c :: s => if c = 'e' ∨ c = 'E' then exponent? s else none
  return ofDecimal negative (digitsValue (whole ++ fraction)) (e - fraction.length)

def infinityNames : List String := ["inf", "infinity"]

def unsigned? (negative : Bool) (s : List Char) : Option Double :=
  let name := String.ofList (s.map Char.toLower)
  if infinityNames.contains name then some (infinite negative)
  else if name = "nan" then some nan
  else decimal? negative s

def parse? : List Char → Option Double
  | '-' :: s => unsigned? true s
  | '+' :: s => unsigned? false s
  | s        => unsigned? false s

def sign (negative : Bool) : List Char := if negative then ['-'] else []

def text : Double → List Char
  | finite negative x => sign negative ++ (x.shortest .up).positional
  | infinite negative => sign negative ++ ['i', 'n', 'f']
  | nan               => ['N', 'a', 'N']

def isZero : Double → Bool
  | finite _ x => x.isZero
  | _          => false

-- The integer within the bounds that is nearest; of two the one farther from zero. What is no
-- number counts as zero.
def round (least greatest : Int) : Double → Int
  | finite negative x =>
    let i : Int := x.roundHalfUp
    max least (min greatest (if negative then -i else i))
  | infinite negative => if negative then least else greatest
  | nan               => 0

example : (parse? ['-', '.', '5', 'e', '1']).map text = some ['-', '5'] := by decide +kernel
example : (parse? ['1', '.']).map text = some ['1'] := by decide +kernel
example : (parse? ['.']).map text = none := by decide +kernel
example : (parse? ['I', 'N', 'F']).map text = some ['i', 'n', 'f'] := by decide +kernel
example : (parse? ['-', '1', '.', '5']).map (round (-128) 127) = some (-2) := by decide +kernel

end Double

end Outbox.Decimal

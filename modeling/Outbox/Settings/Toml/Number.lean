import Outbox.Settings.Setting
import Outbox.Text.Search
import Outbox.Text.Hex

namespace Outbox.Toml

def digits? (isDigit : Char → Bool) (s : List Char) : Option (List Char × List Char) :=
  let inside c := isDigit c || c == '_'
  let groups := Text.splitAt '_' (s.takeWhile inside)
  if groups.all fun g => !g.isEmpty then some (groups.flatten, s.dropWhile inside) else none

def whole? (s : List Char) : Option (List Char × List Char) := do
  let (digits, rest) ← digits? Char.isDigit s
  if 1 < digits.length ∧ digits.head? = some '0' then none else some (digits, rest)

def sign (s : List Char) : List Char × List Char :=
  match s with
  | '-' :: s => (['-'], s)
  | '+' :: s => (['+'], s)
  | _        => ([], s)

def fraction? (s : List Char) : Option (List Char × List Char) :=
  match s with
  | '.' :: s => (digits? Char.isDigit s).map fun (ds, rest) => ('.' :: ds, rest)
  | _        => some ([], s)

def exponent? (s : List Char) : Option (List Char × List Char) :=
  match s with
  | c :: rest =>
    if c = 'e' ∨ c = 'E' then
      let (sign, rest) := sign rest
      (digits? Char.isDigit rest).map fun (ds, rest) => ('e' :: sign ++ ds, rest)
    else some ([], s)
  | [] => some ([], [])

def based? (base : Nat) (s : List Char) : Option (Setting × List Char) := do
  let isDigit c := Text.Hex.isDigit c && Text.Hex.value c < base
  let (digits, rest) ← digits? isDigit s
  let n : Int := digits.foldl (fun n c => n * base + Text.Hex.value c) 0
  if n ≤ Setting.greatestInteger then return (.integer n, rest) else none

-- A number in base ten. A double must not be beyond the largest one; below the least it may be.
def decimal? (s : List Char) : Option (Setting × List Char) := do
  let (sign, s) := sign s
  let (whole, s) ← whole? s
  let (fraction, s) ← fraction? s
  let (exponent, rest) ← exponent? s
  if fraction.isEmpty ∧ exponent.isEmpty then
    let i ← Decimal.integer? Setting.leastInteger Setting.greatestInteger (sign ++ whole)
    return (.integer i, rest)
  let x ← Decimal.Double.parse? (sign ++ whole ++ fraction ++ exponent)
  if x = .infinite false then none else return (.float x, rest)

def number? (s : List Char) : Option (Setting × List Char) :=
  match s with
  | '0' :: 'x' :: s => based? 16 s
  | '0' :: 'o' :: s => based? 8 s
  | '0' :: 'b' :: s => based? 2 s
  | _ =>
    let (sign, rest) := sign s
    match rest with
    | 'i' :: 'n' :: 'f' :: rest => some (.float (.infinite (sign == ['-'])), rest)
    | 'n' :: 'a' :: 'n' :: rest => some (.float .nan, rest)
    | _ => decimal? s

end Outbox.Toml

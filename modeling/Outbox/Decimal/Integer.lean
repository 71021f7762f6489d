namespace Outbox.Decimal

def digitsValue (digits : List Char) : Nat :=
  digits.foldl (fun n c => n * 10 + (c.toNat - '0'.toNat)) 0

def natural? (s : List Char) : Option Nat :=
  if s.isEmpty || !s.all Char.isDigit then none else some (digitsValue s)

-- The integer that the text is, if it lies within the bounds. Where there are no negative integers
-- there is no minus sign either.
def integer? (least greatest : Int) (s : List Char) : Option Int := do
  let i : Int ← match s with
    | '-' :: digits => if least < 0 then (natural? digits).map fun n => -(n : Int) else none
    | '+' :: digits => natural? digits
    | digits => natural? digits
  if least ≤ i ∧ i ≤ greatest then some i else none

example : integer? 0 255 ['+', '0', '7'] = some 7 := by decide
example : integer? 0 255 ['-', '0'] = none := by decide
example : integer? (-128) 127 ['-', '1', '2', '8'] = some (-128) := by decide
example : integer? (-128) 127 ['+'] = none := by decide

end Outbox.Decimal

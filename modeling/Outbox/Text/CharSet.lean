namespace Outbox.Text

-- The code points `first`, `first + step`, … up to `last`.
structure Run where
  first : Nat
  last  : Nat
  step  : Nat

def Run.contains (r : Run) (n : Nat) : Bool :=
  r.first ≤ n && n ≤ r.last && (n - r.first) % r.step == 0

abbrev CharSet := List Run

def CharSet.contains (s : CharSet) (c : Char) : Bool :=
  s.any (·.contains c.toNat)

end Outbox.Text

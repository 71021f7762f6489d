import Outbox.Text.Blank

namespace Outbox.Pattern

structure Modes where
  -- Blanks and comments between the parts do not count.
  spaced : Bool := false
  -- Classes are sets of characters, and not of single bytes.
  unicode : Bool := true
  deriving DecidableEq, Repr

def skipSpace (comment : Bool) : List Char → List Char
  | [] => []
  | c :: s =>
    if comment then skipSpace (c != '\n') s
    else if Text.isBlank c then skipSpace false s
    else if c = '#' then skipSpace true s
    else c :: s

def Modes.next (m : Modes) (s : List Char) : List Char :=
  if m.spaced then skipSpace false s else s

-- How many parts stand side by side, and how deep the deepest one nests.
structure Tally where
  count : Nat := 0
  depth : Nat := 0
  deriving DecidableEq, Repr

def Tally.add (t : Tally) (depth : Nat) : Tally := ⟨t.count + 1, max t.depth depth⟩

-- The depth of all parts together: several ones are a level of their own.
def Tally.total (t : Tally) : Nat := if t.count ≤ 1 then t.depth else t.depth + 1

def greatestDepth : Nat := 250

end Outbox.Pattern

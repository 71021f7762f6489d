import Outbox.Text.Blank

namespace Outbox.Dotenv

-- What the characters of a line so far leave open.
inductive Pending where
  | nothing
  | blank
  | escape
  | weak
  | weakEscape
  | strong
  | strongEscape
  deriving DecidableEq, Repr

namespace Pending

def bare (c : Char) : Pending :=
  if c = '\\' then escape
  else if c = '"' then weak
  else if c = '\'' then strong
  else nothing

def step : Pending → Char → Pending
  | nothing, c =>
    if Text.isBlank c ∧ c ≠ '\n' ∧ c ≠ '\r' then blank else bare c
  | blank, c        => bare c
  | escape, _       => nothing
  | weak, c         => if c = '\\' then weakEscape else if c = '"' then nothing else weak
  | weakEscape, _   => weak
  | strong, c       => if c = '\\' then strongEscape else if c = '\'' then nothing else strong
  | strongEscape, _ => strong

-- Goes through a piece of text. Where a comment starts it stops, and gives the number of bytes
-- before it.
def scan (p : Pending) (bytes : Nat) : List Char → Nat ⊕ Pending
  | [] => .inr p
  | c :: s => if p = blank ∧ c = '#' then .inl bytes else scan (p.step c) (bytes + c.utf8Size) s

end Pending

def takeBytes (bytes : Nat) : List Char → List Char
  | [] => []
  | c :: s => if c.utf8Size ≤ bytes then c :: takeBytes (bytes - c.utf8Size) s else []

def pieces : List Char → List (List Char)
  | [] => []
  | c :: s =>
    if c = '\n' then [c] :: pieces s
    else match pieces s with
      | piece :: rest => (c :: piece) :: rest
      | [] => [[c]]

def chomp (s : List Char) : List Char :=
  if s.getLast? = some '\n' then
    if s.dropLast.getLast? = some '\r' then s.dropLast.dropLast else s.dropLast
  else s

-- Puts pieces together to lines, given what the piece before left open. A comment leaves of a line
-- as many bytes as stand before it in its own piece. What is still open at the end is no line.
def join (p : Pending) (before : List Char) : List (List Char) → List (List Char)
  | [] => []
  | piece :: rest =>
    let line := before ++ piece
    if (line.dropWhile Text.isBlank).head? = some '#' then join .nothing [] rest
    else
      match p.scan 0 piece with
      | .inl bytes    => takeBytes bytes line :: join .nothing [] rest
      | .inr .nothing => chomp line :: join .nothing [] rest
      | .inr p        => join p line rest

def lines (s : List Char) : List (List Char) :=
  join .nothing [] (pieces s)

example : (lines "A=x # z\nB='1\n2'\r\n".toList).map String.ofList = ["A=x ", "B='1\n2'"] := by
  decide +kernel
example : lines "A='x".toList = [] := by decide +kernel

end Outbox.Dotenv

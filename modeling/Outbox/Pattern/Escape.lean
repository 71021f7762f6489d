import Outbox.Pattern.Basic
import Outbox.Text.Hex

namespace Outbox.Pattern

inductive Primitive where
  -- A character; `byte` if it is written as two hexadecimal digits.
  | char (c : Char) (byte : Bool)
  -- Digits, blanks or word characters, or all others.
  | shorthand (negated : Bool)
  | category
  | anchor
  | boundary
  deriving DecidableEq, Repr

def hexWidths : List (Char × Nat) := [('x', 2), ('u', 4), ('U', 8)]

def shorthands : List Char := ['d', 's', 'w', 'D', 'S', 'W']

def categories : List Char := ['c', 'l', 'm', 'n', 'p', 's', 'z']

def controls : List (Char × Char) :=
  [('a', '\x07'), ('f', '\x0c'), ('t', '\t'), ('n', '\n'), ('r', '\r'), ('v', '\x0b')]

def anchors : List Char := ['A', 'z']
def boundaries : List Char := ['b', 'B', '<', '>']

def isEscapable (c : Char) : Bool :=
  c.toNat < 128 && !c.isAlphanum && c != '<' && c != '>'

def hexDigits? (m : Modes) (acc : Nat) : Nat → List Char → Option (Nat × List Char)
  | 0, s => some (acc, s)
  | width + 1, c :: s =>
    if Text.Hex.isDigit c then hexDigits? m (acc * 16 + Text.Hex.value c) width (m.next s) else none
  | _ + 1, [] => none

def category? (m : Modes) (s : List Char) : Option (Primitive × List Char) :=
  match m.next s with
  | c :: s => if categories.contains c.toLower then some (.category, m.next s) else none
  | []     => none

def escape? (m : Modes) (s : List Char) : Option (Primitive × List Char) :=
  match s with
  | [] => none
  | c :: s =>
    match hexWidths.lookup c with
    | some width => do
      let (code, s) ← hexDigits? m 0 width (m.next s)
      if code.isValidChar then return (.char (Char.ofNat code) (width == 2), s) else none
    | none =>
      if c = 'p' ∨ c = 'P' then category? m s
      else if shorthands.contains c then some (.shorthand c.isUpper, s)
      else if anchors.contains c then some (.anchor, s)
      else if boundaries.contains c then some (.boundary, s)
      else if isEscapable c then some (.char c false, s)
      else (controls.lookup c).map fun d => (.char d false, s)

-- Does a part outside of brackets make sense in these modes? Bytes alone may not take a character
-- apart; the places between words are known for bytes only.
def Modes.admits (m : Modes) : Primitive → Bool
  | .char c byte       => m.unicode || !byte || c.toNat < 128
  | .shorthand negated => m.unicode || !negated
  | .category          => m.unicode
  | .anchor            => true
  | .boundary          => !m.unicode

end Outbox.Pattern

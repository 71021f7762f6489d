import Outbox.Pattern.Escape

namespace Outbox.Pattern

-- What was read of a class: the depth of the operand before the last operator, what there is since
-- then, and whether everything is within ASCII.
structure Brackets where
  left    : Option Nat := none
  members : Tally := {}
  ascii   : Bool := true
  deriving DecidableEq, Repr

namespace Brackets

def depth (b : Brackets) : Nat :=
  match b.left with
  | some left => max left b.members.total + 1
  | none      => b.members.total

def add (b : Brackets) (depth : Nat) (ascii : Bool) : Brackets :=
  { b with members := b.members.add depth, ascii := b.ascii && ascii }

def operate (b : Brackets) : Brackets :=
  { b with left := some b.depth, members := {} }

end Brackets

def classNames : List String :=
  ["alnum", "alpha", "ascii", "blank", "cntrl", "digit", "graph", "lower", "print", "punct",
   "space", "upper", "word", "xdigit"]

def named? (s : List Char) : Option (Bool × List Char) :=
  let negated := s.head? == some '^'
  let s := if negated then s.tail else s
  match s.dropWhile (· != ':') with
  | ':' :: ']' :: rest =>
    if classNames.contains (String.ofList (s.takeWhile (· != ':'))) then some (negated, rest)
    else none
  | _ => none

def dashes (m : Modes) (b : Brackets) (room : Nat) (s : List Char) : Brackets × List Char :=
  match room, s with
  | room + 1, '-' :: s => dashes m (b.add 0 true) room (m.next s)
  | _, _ => (b, s)

-- The beginning of a class behind its bracket: whether it is negated, and dashes or a closing
-- bracket that belong to it.
def open? (m : Modes) (s : List Char) : Bool × Brackets × List Char :=
  let s := m.next s
  let negated := s.head? == some '^'
  let s := if negated then m.next s.tail else s
  let (b, s) := dashes m {} s.length s
  match s with
  | ']' :: rest =>
    if b.members.count = 0 then (negated, b.add 0 true, m.next rest) else (negated, b, s)
  | _ => (negated, b, s)

def member? (m : Modes) (s : List Char) : Option (Primitive × List Char) :=
  match s with
  | '\\' :: s => escape? m s
  | c :: s    => some (.char c false, s)
  | []        => none

def peek? (m : Modes) (s : List Char) : Option Char :=
  if m.spaced then
    match s.dropWhile Text.isBlank with
    | '#' :: r => (r.dropWhile Text.isBlank).head?.or s.head?
    | r        => r.head?.or s.head?
  else s.head?

def Primitive.ascii? : Primitive → Option Bool
  | .char c _          => some (c.toNat < 128)
  | .shorthand negated => some !negated
  | .category          => some false
  | .anchor            => none
  | .boundary          => none

def range? (m : Modes) (s : List Char) : Option (Bool × List Char) := do
  let (first, rest) ← member? m s
  let isRange (s : List Char) : Bool :=
    s.head? == some '-' && peek? m s.tail != some ']' && peek? m s.tail != some '-'
  let rest := m.next rest
  if isRange rest then
    let (last, rest) ← member? m (m.next rest.tail)
    match first, last with
    | .char a _, .char b _ => if a.toNat ≤ b.toNat then return (b.toNat < 128, rest) else none
    | _, _ => none
  else return (← first.ascii?, rest)

-- The rest of a class behind its opening bracket: how deep it nests, whether it is within ASCII,
-- and what follows it. Each step takes a character at least, so that as much `room` as the text has
-- characters is enough.
def brackets? (m : Modes) (room : Nat) (b : Brackets) (s : List Char) :
    Option (Nat × Bool × List Char) :=
  match room with
  | 0 => none
  | room + 1 =>
    match m.next s with
    | [] => none
    | ']' :: rest => some (b.depth, b.ascii, rest)
    | '&' :: '&' :: rest | '-' :: '-' :: rest | '~' :: '~' :: rest =>
      brackets? m room b.operate rest
    | '[' :: rest =>
      match if rest.head? = some ':' then named? rest.tail else none with
      | some (negated, rest) => brackets? m room (b.add 0 !negated) rest
      | none => do
        let (negated, inner, rest) := open? m rest
        let (depth, ascii, rest) ← brackets? m room inner rest
        brackets? m room (b.add (depth + 1) (ascii && !negated)) rest
    | s => do
      let (ascii, rest) ← range? m s
      brackets? m room (b.add 0 ascii) rest

def class? (m : Modes) (s : List Char) : Option (Nat × List Char) := do
  let (negated, b, rest) := open? m s
  let (depth, ascii, rest) ← brackets? m (rest.length + 1) b rest
  if m.unicode || (ascii && !negated) then return (depth + 1, rest) else none

end Outbox.Pattern

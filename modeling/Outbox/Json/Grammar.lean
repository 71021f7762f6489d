import Outbox.Json.Tree
import Outbox.Text.Hex

namespace Outbox.Json

def escapeLetters : List Char := ['"', '\\', '/', 'b', 'f', 'n', 'r', 't']

-- A unit needs four bytes of text behind its `u`; with fewer the text is cut short.
def unitFault (s : List Char) : Fault :=
  if 4 ≤ (s.take 4).foldl (fun n c => n + c.utf8Size) 0 then .malformed else .cutShort

def Quoted.read : List Char → Quoted × List Char
  | [] => (⟨[], some .cutShort⟩, [])
  | '"' :: s => (⟨[], none⟩, s)
  | '\\' :: 'u' :: a :: b :: c :: d :: s =>
    if [a, b, c, d].all Text.Hex.isDigit then
      let (q, r) := Quoted.read s
      (⟨.unit a b c d :: q.pieces, q.fault⟩, r)
    else (⟨[], some (unitFault [a, b, c, d])⟩, [])
  | '\\' :: 'u' :: s => (⟨[], some (unitFault s)⟩, [])
  | ['\\'] => (⟨[], some .cutShort⟩, [])
  | '\\' :: c :: s =>
    if escapeLetters.contains c then
      let (q, r) := Quoted.read s
      (⟨.escaped c :: q.pieces, q.fault⟩, r)
    else (⟨[], some .malformed⟩, [])
  | c :: s =>
    if c.toNat < 32 then (⟨[], some .malformed⟩, [])
    else
      let (q, r) := Quoted.read s
      (⟨.plain c :: q.pieces, q.fault⟩, r)

def digits (s : List Char) : Except Tree (List Char × List Char) :=
  match s with
  | [] => .error .cutNumber
  | c :: _ =>
    if c.isDigit then .ok (s.takeWhile Char.isDigit, s.dropWhile Char.isDigit)
    else .error (.broken .malformed)

def wholeDigits (s : List Char) : Except Tree (List Char × List Char) :=
  match s with
  | '0' :: c :: _ => if c.isDigit then .error (.broken .malformed) else .ok (['0'], s.tail)
  | _ => digits s

def fractionDigits (s : List Char) : Except Tree (Option (List Char) × List Char) :=
  match s with
  | '.' :: s => (digits s).map fun (ds, r) => (some ds, r)
  | _ => .ok (none, s)

def exponentPart (s : List Char) : Except Tree (Option Exponent × List Char) :=
  match s with
  | c :: s' =>
    if c == 'e' || c == 'E' then
      match s' with
      | d :: s'' =>
        if d == '+' || d == '-' then (digits s'').map fun (ds, r) => (some ⟨c, some d, ds⟩, r)
        else (digits s').map fun (ds, r) => (some ⟨c, none, ds⟩, r)
      | [] => .error .cutNumber
    else .ok (none, s)
  | [] => .ok (none, s)

def numeral (negative : Bool) (s : List Char) : Except Tree (Numeral × List Char) := do
  let (whole, s) ← wholeDigits s
  let (fraction, s) ← fractionDigits s
  let (exponent, s) ← exponentPart s
  return (⟨negative, whole, fraction, exponent⟩, s)

def Tree.ofNumeral : Except Tree (Numeral × List Char) → Tree × List Char
  | .ok (n, r) => (.number n, r)
  | .error t   => (t, [])

def expect (word : List Char) (t : Tree) (s : List Char) : Tree × List Char :=
  match word, s with
  | [], s => (t, s)
  | _ :: _, [] => (.broken .cutShort, [])
  | c :: word, d :: s => if c = d then expect word t s else (.broken .malformed, [])

mutual

def Tree.read (fuel : Nat) (s : List Char) : Tree × List Char :=
  match fuel with
  | 0 => (.absent, [])
  | fuel + 1 =>
    match s with
    | [] => (.absent, [])
    | 'n' :: s => expect "ull".toList .null s
    | 't' :: s => expect "rue".toList (.bool true) s
    | 'f' :: s => expect "alse".toList (.bool false) s
    | '"' :: s => let (q, r) := Quoted.read s; (.text q, r)
    | '-' :: s => Tree.ofNumeral (numeral true s)
    | '[' :: s =>
      match s.dropWhile isBlank with
      | ']' :: r => (.array (s.takeWhile isBlank) .close, r)
      | [] => (.array [] (.cut .cutShort), [])
      | _ => let (items, r) := Items.read fuel s; (.array [] items, r)
    | '{' :: s =>
      match s.dropWhile isBlank with
      | '}' :: r => (.object (s.takeWhile isBlank) .close, r)
      | [] => (.object [] (.cut .cutShort), [])
      | _ => let (members, r) := Members.read fuel s; (.object [] members, r)
    | c :: _ => if c.isDigit then Tree.ofNumeral (numeral false s) else (.broken .malformed, [])

def Items.read (fuel : Nat) (s : List Char) : Items × List Char :=
  match fuel with
  | 0 => (.cut .cutShort, [])
  | fuel + 1 =>
    let (value, r) := Tree.read fuel (s.dropWhile isBlank)
    let item := Items.item (s.takeWhile isBlank) value (r.takeWhile isBlank)
    match r.dropWhile isBlank with
    | ',' :: r =>
      match r.dropWhile isBlank with
      | []       => (item (.dangling .cutShort), [])
      | ']' :: _ => (item (.dangling .malformed), [])
      | _        => let (rest, r) := Items.read fuel r; (item rest, r)
    | ']' :: r => (item .close, r)
    | [] => (item (.cut .cutShort), [])
    | _ => (item (.cut .malformed), [])

def Members.read (fuel : Nat) (s : List Char) : Members × List Char :=
  match fuel with
  | 0 => (.cut .cutShort, [])
  | fuel + 1 =>
    match s.dropWhile isBlank with
    | '"' :: r =>
      let (key, r) := Quoted.read r
      match r.dropWhile isBlank with
      | ':' :: r' =>
        let (value, r'') := Tree.read fuel (r'.dropWhile isBlank)
        let member := Members.member (s.takeWhile isBlank) key (r.takeWhile isBlank)
          (r'.takeWhile isBlank) value (r''.takeWhile isBlank)
        match r''.dropWhile isBlank with
        | ',' :: r => let (rest, r) := Members.read fuel r; (member rest, r)
        | '}' :: r => (member .close, r)
        | [] => (member (.cut .cutShort), [])
        | _ => (member (.cut .malformed), [])
      | [] => (.unvalued key .cutShort, [])
      | _ => (.unvalued key .malformed, [])
    | r => (.unkeyed (Tree.read fuel r).1, [])

end

-- Reading never nests deeper than two calls for each character.
def enoughFuel (s : List Char) : Nat := 2 * s.length + 2

-- The one value of a text, with nothing but blanks around it; `decode` gives the shape wanted, and
-- its complaint comes before that about text left over.
def parse (decode : Tree → Except Fault α) (text : List Char) : Except Fault α := do
  let s := text.dropWhile isBlank
  let (tree, rest) := Tree.read (enoughFuel s) s
  let a ← decode tree
  if (rest.dropWhile isBlank).isEmpty then return a else throw .malformed

-- The tree of a text that is one JSON value with blanks around it, and no more than that: neither
-- depth nor size of numbers is limited, and units need not pair up.
def parseTree (text : List Char) : Except Fault Tree :=
  parse (fun t => match t.skim with | some fault => .error fault | none => .ok t) text

end Outbox.Json

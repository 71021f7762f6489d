import Outbox.Pattern.Brackets
import Outbox.Text.Alphanumeric

namespace Outbox.Pattern

-- A group behind its parenthesis: changed modes for the group around it, or the modes and the name
-- of a group of its own.
inductive Group where
  | modes (m : Modes)
  | scope (m : Modes) (name : Option (List Char))

def flags : List Char := ['i', 'm', 's', 'U', 'u', 'R', 'x', '-']

def flag (word : List Char) (f : Char) (default : Bool) : Bool :=
  if word.contains f then !(word.takeWhile (· != f)).contains '-' else default

def isFlags (word : List Char) : Bool :=
  word.all flags.contains && decide word.Nodup && word.getLast? != some '-'

def flagGroup? (m : Modes) (s : List Char) : Option (Group × List Char) :=
  let inside c := c != ':' && c != ')'
  let word := s.takeWhile inside
  let changed : Modes := ⟨flag word 'x' m.spaced, flag word 'u' m.unicode⟩
  if !isFlags word then none
  else
    match s.dropWhile inside with
    | ':' :: rest => some (.scope changed none, rest)
    | ')' :: rest => if word.isEmpty then none else some (.modes changed, rest)
    | _ => none

def isNameStart (c : Char) : Bool := c == '_' || Text.isAlphabetic c

def isNameChar (c : Char) : Bool :=
  c == '_' || c == '.' || c == '[' || c == ']' || Text.isAlphanumeric c

def namedGroup? (m : Modes) (s : List Char) : Option (Group × List Char) :=
  let name := s.takeWhile (· != '>')
  match name, s.dropWhile (· != '>') with
  | c :: cs, '>' :: rest =>
    if isNameStart c && cs.all isNameChar then some (.scope m (some name), rest) else none
  | _, _ => none

def group? (m : Modes) (s : List Char) : Option (Group × List Char) :=
  match m.next s with
  | '?' :: '!' :: _ | '?' :: '=' :: _ | '?' :: '<' :: '!' :: _ | '?' :: '<' :: '=' :: _ => none
  | '?' :: 'P' :: '<' :: s | '?' :: '<' :: s => namedGroup? m s
  | '?' :: s => flagGroup? m s
  | s => some (.scope m none, s)

abbrev Parts := List (Option Nat)

def Parts.tally (parts : Parts) : Tally :=
  parts.foldl (fun t part => t.add (part.getD 0)) {}

-- A pattern, or the inside of a group: the depth of its alternatives so far, the parts of the last
-- one in reverse, and the names of groups. It gives the depth, the names and what follows, which is
-- nothing or a closing parenthesis. Each step takes a character at least, so that as much `room` as
-- the text has characters is enough.
def expression? (room : Nat) (m : Modes) (alternatives : Tally) (parts : Parts)
    (names : List (List Char)) (s : List Char) : Option (Nat × List (List Char) × List Char) :=
  match room with
  | 0 => none
  | room + 1 =>
    match m.next s with
    | [] => some ((alternatives.add parts.tally.total).total, names, [])
    | ')' :: rest => some ((alternatives.add parts.tally.total).total, names, ')' :: rest)
    | '|' :: rest => expression? room m (alternatives.add parts.tally.total) [] names rest
    | '(' :: rest => do
      match ← group? m rest with
      | (.modes changed, rest) => expression? room changed alternatives (none :: parts) names rest
      | (.scope inner name, rest) =>
        if name.any names.contains then none
        match ← expression? room inner {} [] (name.toList ++ names) rest with
        | (depth, names, ')' :: rest) =>
          expression? room m alternatives (some (depth + 1) :: parts) names rest
        | _ => none
    | '[' :: rest => do
      let (depth, rest) ← class? m rest
      expression? room m alternatives (some depth :: parts) names rest
    | c :: rest =>
      if c = '?' ∨ c = '*' ∨ c = '+' then
        match parts with
        | some depth :: parts =>
          let rest := if rest.head? = some '?' then rest.tail else rest
          expression? room m alternatives (some (depth + 1) :: parts) names rest
        | _ => none
      else if c = '{' then none
      else if c = '.' then
        if m.unicode then expression? room m alternatives (some 0 :: parts) names rest else none
      else if c = '\\' then do
        let (p, rest) ← escape? m rest
        if m.admits p then expression? room m alternatives (some 0 :: parts) names rest else none
      else expression? room m alternatives (some 0 :: parts) names rest

-- Is the text a pattern? Counts in braces are not taken for repetitions here.
def wellFormed (s : List Char) : Bool :=
  match expression? (s.length + 1) {} {} [] [] s with
  | some (depth, _, []) => depth ≤ greatestDepth
  | _ => false

example : wellFormed "a+|(?<n>[^b-d]*)".toList := by decide +kernel
example : wellFormed "(a".toList = false := by decide +kernel
example : wellFormed "*a".toList = false := by decide +kernel
example : wellFormed "(?-u:[^a])".toList = false := by decide +kernel

end Outbox.Pattern

import Outbox.Settings.Setting

namespace Outbox.Setting

def isKeyChar (c : Char) : Bool :=
  c.isAlphanum || c == '_' || c == '-' || c == ' '

def skipBlanks (s : List Char) : List Char :=
  s.dropWhile fun c => c == ' ' || c == '\t'

def position? (s : List Char) : Option (Step × List Char) := do
  let s := skipBlanks s
  let sign := s.takeWhile (· == '-')
  let s := s.drop sign.length
  let i ← Decimal.integer? leastInteger greatestInteger (sign ++ s.takeWhile Char.isDigit)
  match skipBlanks (s.dropWhile Char.isDigit) with
  | ']' :: rest => return (.item i, rest)
  | _ => none

def name? (s : List Char) : Option (String × List Char) :=
  let name := s.takeWhile isKeyChar
  if name.isEmpty then none else some (String.ofList name, s.dropWhile isKeyChar)

-- The steps behind the first name. Each one takes a character at least, so that as much `room` as
-- the text has characters is enough.
def steps? (room : Nat) (s : List Char) : Option (List Step) :=
  match room, s with
  | _, [] => some []
  | 0, _ :: _ => none
  | room + 1, '.' :: s => do
    let (name, rest) ← name? s
    return .entry name :: (← steps? room rest)
  | room + 1, '[' :: s => do
    let (step, rest) ← position? s
    return step :: (← steps? room rest)
  | _, _ => none

def steps (key : List Char) : Step × List Step :=
  let steps := do
    let (name, rest) ← name? key
    return (Step.entry name, ← steps? rest.length rest)
  steps.getD (.entry (String.ofList key), [])

example : steps "a.b[ -1 ].c".toList = (.entry "a", [.entry "b", .item (-1), .entry "c"]) := by
  decide +kernel
example : steps "a[x]".toList = (.entry "a[x]", []) := by decide +kernel

def putPath (target : Setting) (key : List Char) (value : Setting) : Setting :=
  let (first, rest) := steps key
  target.putAt value first rest

end Outbox.Setting

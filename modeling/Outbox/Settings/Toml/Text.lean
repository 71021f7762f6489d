import Outbox.Text.Hex

namespace Outbox.Toml

def isBlank (c : Char) : Bool := c == ' ' || c == '\t'

-- Comments and texts hold no control characters apart from tabs.
def isTextChar (c : Char) : Bool := c == '\t' || (32 ≤ c.toNat && c.toNat != 127)

def skipBlanks (s : List Char) : List Char := s.dropWhile isBlank

def newline? : List Char → Option (List Char)
  | '\n' :: s         => some s
  | '\r' :: '\n' :: s => some s
  | _                 => none

def nextLine? (s : List Char) : Option (List Char) :=
  let s := skipBlanks s
  match if s.head? = some '#' then s.dropWhile isTextChar else s with
  | [] => some []
  | s  => newline? s

def skipLines : List Char → List Char
  | '\n' :: s         => skipLines s
  | '\r' :: '\n' :: s => skipLines s
  | c :: s            => if isBlank c then skipLines s else c :: s
  | []                => []

def skipComments? (comment : Bool) : List Char → Option (List Char)
  | '\n' :: s         => skipComments? false s
  | '\r' :: '\n' :: s => skipComments? false s
  | c :: s =>
    if comment then if isTextChar c then skipComments? true s else none
    else if c = '#' then skipComments? true s
    else if isBlank c then skipComments? false s
    else some (c :: s)
  | [] => some []

def charOfHex? (digits : List Char) : Option Char :=
  if digits.all Text.Hex.isDigit then
    let code := digits.foldl (fun n c => n * 16 + Text.Hex.value c) 0
    if code.isValidChar then some (Char.ofNat code) else none
  else none

def escapes : List (Char × Char) :=
  [('b', '\x08'), ('t', '\t'), ('n', '\n'), ('f', '\x0c'), ('r', '\r'), ('"', '"'), ('\\', '\\')]

def escape? : List Char → Option (Char × List Char)
  | 'u' :: a :: b :: c :: d :: s => (charOfHex? [a, b, c, d]).map (·, s)
  | 'U' :: a :: b :: c :: d :: e :: f :: g :: h :: s =>
    (charOfHex? [a, b, c, d, e, f, g, h]).map (·, s)
  | c :: s => (escapes.lookup c).map (·, s)
  | []     => none

-- A text in double quotes behind the opening one. Each step takes a character at least, so that as
-- much `room` as the text has characters is enough; likewise below.
def basic? (room : Nat) (s : List Char) : Option (List Char × List Char) :=
  match room, s with
  | _, '"' :: s => some ([], s)
  | room + 1, '\\' :: s => do
    let (c, s) ← escape? s
    let (t, rest) ← basic? room s
    return (c :: t, rest)
  | room + 1, c :: s =>
    if isTextChar c then do
      let (t, rest) ← basic? room s
      return (c :: t, rest)
    else none
  | _, _ => none

def literal? (s : List Char) : Option (List Char × List Char) :=
  let inside c := isTextChar c && c != '\''
  match s.dropWhile inside with
  | '\'' :: rest => some (s.takeWhile inside, rest)
  | _            => none

-- A text of several lines behind its opening quotes. Up to two quotes may stand before the three
-- that end it. A backslash at the end of a line takes away all blanks and line ends that follow.
def lines? (quote : Char) (room : Nat) (s : List Char) : Option (List Char × List Char) :=
  let quotes := (s.takeWhile (· == quote)).length
  if 3 ≤ quotes then some (List.replicate (min (quotes - 3) 2) quote, s.drop (min quotes 5))
  else
    match room with
    | 0 => none
    | room + 1 =>
      match newline? s with
      | some s => do
        let (t, rest) ← lines? quote room s
        return ('\n' :: t, rest)
      | none =>
        match s with
        | [] => none
        | c :: s =>
          if c = '\\' ∧ quote = '"' then
            match newline? (skipBlanks s) with
            | some s => lines? quote room (skipLines s)
            | none => do
              let (c, s) ← escape? s
              let (t, rest) ← lines? quote room s
              return (c :: t, rest)
          else if isTextChar c then do
            let (t, rest) ← lines? quote room s
            return (c :: t, rest)
          else none

-- A text in quotes of any kind. A line end right behind the opening quotes does not count.
def text? : List Char → Option (List Char × List Char)
  | '"' :: '"' :: '"' :: s    => lines? '"' s.length ((newline? s).getD s)
  | '\'' :: '\'' :: '\'' :: s => lines? '\'' s.length ((newline? s).getD s)
  | '"' :: s                  => basic? s.length s
  | '\'' :: s                 => literal? s
  | _                         => none

def isKeyChar (c : Char) : Bool := c.isAlphanum || c == '_' || c == '-'

def key? (s : List Char) : Option (String × List Char) :=
  match s with
  | '"' :: s  => (basic? s.length s).map fun (t, rest) => (String.ofList t, rest)
  | '\'' :: s => (literal? s).map fun (t, rest) => (String.ofList t, rest)
  | s =>
    let key := s.takeWhile isKeyChar
    if key.isEmpty then none else some (String.ofList key, s.dropWhile isKeyChar)

structure Path where
  parents : List String
  last    : String
  deriving DecidableEq, Repr

def greatestDepth : Nat := 79

def keys? (room : Nat) (s : List Char) : Option (Path × List Char) :=
  match room with
  | 0 => none
  | room + 1 => do
    let (key, rest) ← key? (skipBlanks s)
    match skipBlanks rest with
    | '.' :: rest => do
      let (path, rest) ← keys? room rest
      return (⟨key :: path.parents, path.last⟩, rest)
    | rest => return (⟨[], key⟩, rest)

def path? (s : List Char) : Option (Path × List Char) := do
  let (path, rest) ← keys? s.length s
  if path.parents.length < greatestDepth then return (path, rest) else none

end Outbox.Toml

namespace Outbox.Json

inductive Fault where
  | cutShort
  | malformed
  | mismatched
  deriving DecidableEq, Repr

def isBlank (c : Char) : Bool :=
  c == ' ' || c == '\t' || c == '\n' || c == '\r'

abbrev Blank := List Char

-- A character of a quoted text as it is written: itself, after a backslash, or as four
-- hexadecimal digits that give a 16-bit unit.
inductive Piece where
  | plain (c : Char)
  | escaped (c : Char)
  | unit (a b c d : Char)
  deriving DecidableEq, Repr

def Piece.source : Piece → List Char
  | plain c      => [c]
  | escaped c    => ['\\', c]
  | unit a b c d => ['\\', 'u', a, b, c, d]

-- A quoted text; `fault` says why the closing quote is not reached.
structure Quoted where
  pieces : List Piece
  fault  : Option Fault
  deriving DecidableEq, Repr

def Quoted.source (q : Quoted) : List Char :=
  '"' :: q.pieces.flatMap Piece.source ++ (if q.fault.isNone then ['"'] else [])

structure Exponent where
  mark   : Char
  sign   : Option Char
  digits : List Char
  deriving DecidableEq, Repr

def Exponent.source (e : Exponent) : List Char :=
  e.mark :: e.sign.toList ++ e.digits

structure Numeral where
  negative : Bool
  whole    : List Char
  fraction : Option (List Char)
  exponent : Option Exponent
  deriving DecidableEq, Repr

def Numeral.source (n : Numeral) : List Char :=
  (if n.negative then ['-'] else []) ++ n.whole ++ (n.fraction.map ('.' :: ·)).getD []
    ++ (n.exponent.map Exponent.source).getD []

mutual

-- Where a value cannot be read, its place is taken by `absent` (the text ends there), `cutNumber`
-- (a number that stops where a digit has to follow) or `broken`. The blanks `inside` an array or
-- object belong to an empty one.
inductive Tree where
  | null
  | bool (b : Bool)
  | number (n : Numeral)
  | text (q : Quoted)
  | array (inside : Blank) (items : Items)
  | object (inside : Blank) (members : Members)
  | absent
  | cutNumber
  | broken (fault : Fault)

-- Where items end other than by `close`: neither comma nor bracket follows an item (`cut`), or the
-- text or the array ends behind a comma (`dangling`).
inductive Items where
  | close
  | cut (fault : Fault)
  | dangling (fault : Fault)
  | item (before : Blank) (value : Tree) (after : Blank) (rest : Items)

-- Where members end other than by `close`: neither comma nor brace follows a member (`cut`), no
-- quote starts the key (`unkeyed`) or no colon follows it (`unvalued`).
inductive Members where
  | close
  | cut (fault : Fault)
  | unkeyed (stray : Tree)
  | unvalued (key : Quoted) (fault : Fault)
  | member (before : Blank) (key : Quoted) (afterKey beforeValue : Blank) (value : Tree)
      (after : Blank) (rest : Members)

end

def Items.comma : Items → List Char
  | item ..    => [',']
  | dangling _ => [',']
  | _          => []

def Members.comma : Members → List Char
  | member .. => [',']
  | _         => []

mutual

def Tree.source : Tree → List Char
  | .null                  => "null".toList
  | .bool b                => (if b then "true" else "false").toList
  | .number n              => n.source
  | .text q                => q.source
  | .array inside items    => '[' :: inside ++ items.source
  | .object inside members => '{' :: inside ++ members.source
  | .absent                => []
  | .cutNumber             => []
  | .broken _              => []

def Items.source : Items → List Char
  | .close                        => [']']
  | .cut _                        => []
  | .dangling _                   => []
  | .item before value after rest => before ++ value.source ++ after ++ rest.comma ++ rest.source

def Members.source : Members → List Char
  | .close        => ['}']
  | .cut _        => []
  | .unkeyed _    => []
  | .unvalued _ _ => []
  | .member before key afterKey beforeValue value after rest =>
    before ++ key.source ++ afterKey ++ ':' :: beforeValue ++ value.source ++ after ++ rest.comma
      ++ rest.source

end

mutual

-- The first defect met when a value is passed over unread: its grammar alone counts.
def Tree.skim : Tree → Option Fault
  | .null             => none
  | .bool _           => none
  | .number _         => none
  | .text q           => q.fault
  | .array _ items    => items.skim
  | .object _ members => members.skim
  | .absent           => some .cutShort
  | .cutNumber        => some .malformed
  | .broken fault     => some fault

def Items.skim : Items → Option Fault
  | .close               => none
  | .cut fault           => some fault
  | .dangling fault      => some fault
  | .item _ value _ rest => value.skim.or rest.skim

def Members.skim : Members → Option Fault
  | .close                         => none
  | .cut fault                     => some fault
  | .unkeyed .absent               => some .cutShort
  | .unkeyed _                     => some .malformed
  | .unvalued key fault            => key.fault.or (some fault)
  | .member _ key _ _ value _ rest => key.fault.or (value.skim.or rest.skim)

end

end Outbox.Json

import Outbox.Decimal.Double
import Outbox.Pattern.Expression
import Outbox.Text.Search

namespace Outbox.Log.Filter

def levelNames : List String := ["off", "error", "warn", "info", "debug", "trace"]

def isLevel (s : List Char) : Bool :=
  match Decimal.integer? 0 0xffffffffffffffff s with
  | some n => n ≤ 5
  | none => s.isEmpty || levelNames.contains (String.ofList (s.map Char.toLower))

def startsTarget (c : Char) : Bool :=
  c == '-' || c == ':' || c == '_' || Text.isAlphanumeric c

-- A value is a number or a pattern for texts. Truth values are patterns, too.
def isValue (s : List Char) : Bool :=
  (Decimal.Double.parse? s).isSome || Pattern.wellFormed s

-- A field has a name, or a name and a value behind an equals sign. What follows another such sign
-- does not count.
def isField (s : List Char) : Bool :=
  match Text.splitAt '=' s with
  | _ :: value :: _ => isValue value
  | _               => !s.isEmpty

def slice? (start stop : Nat) : List Char → Option (List Char)
  | [] => if start = 0 ∧ stop = 0 then some [] else none
  | c :: s =>
    if start = 0 ∧ stop = 0 then some []
    else if stop < c.utf8Size then none
    else if start = 0 then (slice? 0 (stop - c.utf8Size) s).map (c :: ·)
    else if start < c.utf8Size then none
    else slice? (start - c.utf8Size) (stop - c.utf8Size) s

def byteSize (s : List Char) : Nat := s.foldl (fun n c => n + c.utf8Size) 0

-- Where in a directive a character stands. Fields and levels are known by the positions at which
-- they start.
inductive Place where
  | start
  | target
  | span
  | field (first : Nat)
  | behindField
  | behindSpan
  | level (first : Nat)
  deriving DecidableEq, Repr

-- From one character to the next. `directive` has the blanks around it: positions are counted from
-- the first character that is not blank, but mean the directive as it is.
def Place.step (directive : List Char) (position : Nat) : Place → Char → Option Place
  | start, c => if c = '[' then some span else if startsTarget c then some target else none
  | target, c =>
    some (if c = '=' then level (position + 1) else if c = '[' then span else target)
  | span, c =>
    some (if c = ']' then behindSpan else if c = '{' then field (position + 1) else span)
  | field first, c =>
    if c = '}' then
      if (slice? first position directive).any isField then some behindField else none
    else some (field first)
  | behindField, c => if c = ']' then some behindSpan else none
  | behindSpan, c  => if c = '=' then some (level (position + 1)) else none
  | level first, _ => some (level first)

def Place.canEnd (directive : List Char) : Place → Bool
  | target      => true
  | behindSpan  => true
  | level first => (slice? first (byteSize directive) directive).any isLevel
  | _           => false

def scan (directive : List Char) (place : Place) (position : Nat) : List Char → Bool
  | [] => place.canEnd directive
  | c :: s =>
    match place.step directive position c with
    | some place => scan directive place (position + c.utf8Size) s
    | none => false

def isDirective (s : List Char) : Bool :=
  scan s .start 0 (Text.trim s)

def wellFormed (filter : String) : Bool :=
  ((Text.splitAt ',' filter.toList).filter fun d => !d.isEmpty).all isDirective

end Outbox.Log.Filter

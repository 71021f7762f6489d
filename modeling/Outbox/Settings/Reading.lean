import Outbox.Dialect
import Outbox.Settings.Variable

namespace Outbox.Setting

inductive LoadError where
  | fileMissing
  | unknownFormat
  | malformedFile
  | mismatched
  deriving DecidableEq, Repr

namespace Dialect

def trueWords : List String := ["true", "on", "yes"]
def falseWords : List String := ["false", "off", "no"]

def text : Setting → Except LoadError String
  | .text s    => .ok s
  | .flag b    => .ok (toString b)
  | .integer i => .ok (toString i)
  | .float x   => .ok (String.ofList x.text)
  | _          => .error .mismatched

def flag : Setting → Except LoadError Bool
  | .flag b    => .ok b
  | .integer i => .ok (i != 0)
  | .float x   => .ok !x.isZero
  | .text s =>
    if lower s = "1" ∨ lower s ∈ trueWords then .ok true
    else if lower s = "0" ∨ lower s ∈ falseWords then .ok false
    else .error .mismatched
  | _ => .error .mismatched

-- The bounds of the 64-bit integers of the kind wanted: with or without negative ones.
def wordBounds (least : Int) : Int × Int :=
  if least < 0 then (leastInteger, greatestInteger) else (0, 0xffffffffffffffff)

-- A number of 64 bits, which is then to lie within the bounds.
def integer (least greatest : Int) (v : Setting) : Except LoadError Int :=
  let (low, high) := wordBounds least
  let word? := match v with
    | .integer i => some i
    | .flag b    => some (if b then 1 else 0)
    | .float x   => some (x.round low high)
    | .text s =>
      if lower s ∈ trueWords then some 1
      else if lower s ∈ falseWords then some 0
      else Decimal.integer? low high s.toList
    | _ => none
  match word? with
  | some i => if least ≤ i ∧ i ≤ greatest then .ok i else .error .mismatched
  | none => .error .mismatched

def pick (names : List (String × α)) (name : String) : Except LoadError α :=
  match names.find? fun (n, _) => lower n = lower name with
  | some (_, a) => .ok a
  | none => .error .mismatched

-- A name stands alone, or is the only key of a table. Letter case does not count.
def choice (names : List (String × α)) : Setting → Except LoadError α
  | .text s            => pick names s
  | .table [(name, _)] => pick names name
  | _                  => .error .mismatched

def optional (read : Setting → Except LoadError α) : Setting → Except LoadError (Option α)
  | .nil => .ok none
  | v    => (read v).map some

def list (read : Setting → Except LoadError α) : Setting → Except LoadError (List α)
  | .list vs => vs.mapM read
  | _        => .error .mismatched

-- A record as a list of its fields in order; what follows them is passed over.
def positional (acc : σ) : List (Field Setting LoadError σ) → List Setting → Except LoadError σ
  | [], _ => .ok acc
  | fields@(_ :: _), [] => if fields.any (·.required) then .error .mismatched else .ok acc
  | field :: fields, v :: vs => do positional (← field.read v acc) fields vs

def keyed (fields : List (Field Setting LoadError σ)) (acc : σ)
    (entries : List (String × Setting)) : Except LoadError σ :=
  fields.foldlM (fun acc field =>
    match entries.lookup field.name with
    | some v => field.read v acc
    | none => if field.required then .error .mismatched else .ok acc) acc

def record (fields : List (Field Setting LoadError σ)) (start : σ) :
    Setting → Except LoadError σ
  | .list vs       => positional start fields vs
  | .table entries => keyed fields start entries
  | _              => .error .mismatched

end Dialect

def dialect : Dialect Setting LoadError where
  text     := Dialect.text
  flag     := Dialect.flag
  integer  := Dialect.integer
  choice   := Dialect.choice
  optional := Dialect.optional
  list     := Dialect.list
  record   := Dialect.record

end Outbox.Setting

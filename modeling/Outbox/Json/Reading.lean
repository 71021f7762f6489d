import Outbox.Dialect
import Outbox.Json.Value

namespace Outbox.Json

namespace TextDialect

def flag : Tree → Except Fault Bool
  | .bool b => .ok b
  | t       => .error t.mismatch

def integer (least greatest : Int) : Tree → Except Fault Int
  | .number n => do
    match ← Number.ofNumeral n with
    | .integer i => if least ≤ i ∧ i ≤ greatest then return i else throw .mismatched
    | .double .. => throw .mismatched
  | t => .error t.mismatch

def pick (names : List (String × α)) (key : Quoted) : Except Fault α := do
  match names.lookup (← key.decode) with
  | some a => return a
  | none => throw .mismatched

-- A name stands alone, or as the only key of an object whose value is null.
def choice (names : List (String × α)) : Tree → Except Fault α
  | .text q => pick names q
  | .object _ members =>
    match members with
    | .close     => .error .malformed
    | .cut fault => .error fault
    | .unkeyed t => .error t.mismatch
    | .unvalued key fault => do
      let _ ← pick names key
      throw fault
    | .member _ key _ _ value _ rest => do
      let a ← pick names key
      match value with
      | .null => pure ()
      | t => throw t.mismatch
      match rest with
      | .close     => return a
      | .cut fault => throw fault
      | _          => throw .malformed
  | .absent => .error .cutShort
  | _       => .error .malformed

def optional (read : Tree → Except Fault α) : Tree → Except Fault (Option α)
  | .null => .ok none
  | t     => (read t).map some

def items (read : Tree → Except Fault α) : Items → Except Fault (List α)
  | .close          => .ok []
  | .cut fault      => .error fault
  | .dangling fault => .error fault
  | .item _ value _ rest => do
    let a ← read value
    let as ← items read rest
    return a :: as

def list (read : Tree → Except Fault α) : Tree → Except Fault (List α)
  | .array _ is => items read is
  | t           => .error t.mismatch

-- A record as a list of its fields in order, of which the last ones may be left out.
def positional (acc : σ) : List (Field Tree Fault σ) → Items → Except Fault σ
  | [], .close => .ok acc
  | [], .cut fault => .error fault
  | [], .dangling _ | [], .item .. => .error .malformed
  | fields@(_ :: _), .close => if fields.any (·.required) then .error .mismatched else .ok acc
  | _ :: _, .cut fault | _ :: _, .dangling fault => .error fault
  | field :: fields, .item _ value _ rest => do
    positional (← field.read value acc) fields rest

-- A record by its keys. Members that are no fields are passed over; a field comes once.
def keyed (fields : List (Field Tree Fault σ)) (seen : List String) (acc : σ) :
    Members → Except Fault σ
  | .close =>
    if fields.any fun f => f.required && !seen.contains f.name then .error .mismatched else .ok acc
  | .cut fault => .error fault
  | .unkeyed .absent => .error .cutShort
  | .unkeyed _ => .error .malformed
  | .unvalued key fault => do
    if seen.contains (← key.decode) then throw .mismatched else throw fault
  | .member _ key _ _ value _ rest => do
    let name ← key.decode
    if seen.contains name then throw .mismatched
    match fields.find? (·.name == name) with
    | some field => keyed fields (name :: seen) (← field.read value acc) rest
    | none =>
      match value.skim with
      | some fault => throw fault
      | none => keyed fields seen acc rest

def record (fields : List (Field Tree Fault σ)) (start : σ) : Tree → Except Fault σ
  | .array _ is       => positional start fields is
  | .object _ members => keyed fields [] start members
  | t                 => .error t.mismatch

end TextDialect

def textDialect : Dialect Tree Fault where
  text     := Tree.text?
  flag     := TextDialect.flag
  integer  := TextDialect.integer
  choice   := TextDialect.choice
  optional := TextDialect.optional
  list     := TextDialect.list
  record   := TextDialect.record

namespace ValueDialect

def text : Value → Except Fault String
  | .text s => .ok s
  | _       => .error .mismatched

def flag : Value → Except Fault Bool
  | .bool b => .ok b
  | _       => .error .mismatched

def integer (least greatest : Int) : Value → Except Fault Int
  | .number (.integer i) => if least ≤ i ∧ i ≤ greatest then .ok i else .error .mismatched
  | _                    => .error .mismatched

def choice (names : List (String × α)) : Value → Except Fault α
  | .text s | .object [(s, .null)] =>
    match names.lookup s with
    | some a => .ok a
    | none => .error .mismatched
  | _ => .error .mismatched

def optional (read : Value → Except Fault α) : Value → Except Fault (Option α)
  | .null => .ok none
  | v     => (read v).map some

def list (read : Value → Except Fault α) : Value → Except Fault (List α)
  | .list vs => vs.mapM read
  | _        => .error .mismatched

def positional (acc : σ) : List (Field Value Fault σ) → List Value → Except Fault σ
  | [], [] => .ok acc
  | [], _ :: _ => .error .mismatched
  | fields@(_ :: _), [] => if fields.any (·.required) then .error .mismatched else .ok acc
  | field :: fields, v :: vs => do positional (← field.read v acc) fields vs

def keyed (fields : List (Field Value Fault σ)) (acc : σ) (members : List (String × Value)) :
    Except Fault σ :=
  fields.foldlM (fun acc field =>
    match members.lookup field.name with
    | some v => field.read v acc
    | none => if field.required then .error .mismatched else .ok acc) acc

def record (fields : List (Field Value Fault σ)) (start : σ) : Value → Except Fault σ
  | .list vs        => positional start fields vs
  | .object members => keyed fields start members
  | _               => .error .mismatched

end ValueDialect

def valueDialect : Dialect Value Fault where
  text     := ValueDialect.text
  flag     := ValueDialect.flag
  integer  := ValueDialect.integer
  choice   := ValueDialect.choice
  optional := ValueDialect.optional
  list     := ValueDialect.list
  record   := ValueDialect.record

end Outbox.Json

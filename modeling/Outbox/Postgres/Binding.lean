import Outbox.Executor
import Outbox.Json.Value

namespace Outbox.Postgres

-- A value as it is sent; `none` is NULL.
inductive Bound where
  | text (s : Option String)
  | jsonb (v : Option Json.Value)
  | timestamptz (micros : Int)

def document? (bytes : ByteArray) : Option Json.Value := do
  let text ← String.fromUTF8? bytes
  (Json.Value.parse text).toOption

def bind (position : Nat) : Argument → Except Executor.Failure Bound
  | .text s         => .ok (.text (some s))
  | .nullableText s => .ok (.text s)
  | .json none      => .ok (.jsonb none)
  | .json (some bytes) =>
    match document? bytes with
    | some v => .ok (.jsonb (some v))
    | none   => .error (.invalidArgument position "not a valid JSON document")
  | .timestamp t    => .ok (.timestamptz t.micros)

def bindFrom (position : Nat) : List Argument → Except Executor.Failure (List Bound)
  | [] => .ok []
  | a :: rest => do
    let b ← bind position a
    let bs ← bindFrom (position + 1) rest
    return b :: bs

def bindAll (arguments : List Argument) : Except Executor.Failure (List Bound) :=
  bindFrom 1 arguments

end Outbox.Postgres

import Outbox.Postgres.Binding

namespace Outbox.Postgres

inductive DatabaseError where
  -- the server refuses; it may name the constraint that is violated
  | reported (text : String) (constraint : Option String)
  | poolClosed
  -- no connection is free in time, or one breaks, or whatever else it may be
  | other (text : String)
  deriving DecidableEq, Repr

namespace DatabaseError

def message : DatabaseError → String
  | reported text _ => s!"error returned from database: {text}"
  | poolClosed      => "attempted to acquire a connection on a closed pool"
  | other text      => text

def failure : DatabaseError → Executor.Failure
  | reported text (some constraint) => .database s!"constraint {constraint} violated: {text}"
  | e => .database e.message

end DatabaseError

structure Response where
  answer  : Except DatabaseError Nat
  elapsed : Nat := 0

-- A database with states `δ`. A statement is sent at an instant. If nobody waits for its answer any
-- more, `abandon` says what it leaves behind: it may have been run or not.
structure Database (δ : Type) where
  execute  : (statement : String) → List Bound → (sent : Instant) → δ → Response × δ
  abandon  : (statement : String) → List Bound → (sent givenUp : Instant) → δ → δ
  start    : δ → Except DatabaseError Unit × δ
  commit   : δ → Except DatabaseError Unit × δ
  rollback : δ → Except DatabaseError Unit × δ

inductive Transaction where
  | none
  | opened
  | finished
  deriving DecidableEq, Repr

structure Session (δ : Type) where
  database    : δ
  poolClosed  : Bool := false
  transaction : Transaction := .none
  -- Until then somebody else has the transaction for himself.
  busyUntil   : Instant := 0

namespace Session

open Executor (Call Reply)

variable {δ : Type} (db : Database δ)

def reply (call : Call) (answer : Except Executor.Failure Nat) (time : Instant) : Reply :=
  { answer, elapsed := time - call.now }

-- Sends a statement and waits for what comes back. Nothing is sent in a scope that has stopped; a
-- statement that was sent is abandoned when the scope stops.
def send (call : Call) (bound : List Bound) (now : Instant) (s : Session δ) : Reply × Session δ :=
  match call.scope.stopped? now with
  | some reason => (reply call (.error (.interrupted reason)) now, s)
  | none =>
    let (response, database) := db.execute call.statement bound now s.database
    match call.scope.race now (now + response.elapsed) with
    | .ok t => (reply call (response.answer.mapError DatabaseError.failure) t, { s with database })
    | .error (reason, t) =>
      let database := db.abandon call.statement bound now t s.database
      (reply call (.error (.interrupted reason)) t, { s with database })

def executePooled : Executor (Session δ) := fun call s =>
  match bindAll call.arguments with
  | .error failure => ({ answer := .error failure }, s)
  | .ok bound =>
    if (call.scope.stopped? call.now).isNone && s.poolClosed then
      ({ answer := .error DatabaseError.poolClosed.failure }, s)
    else send db call bound call.now s

def alreadyFinished : Executor.Failure := .database "transaction already finished"

-- The statement belongs to the transaction, and waits until nobody else has it.
def executeInTransaction : Executor (Session δ) := fun call s =>
  match bindAll call.arguments with
  | .error failure => ({ answer := .error failure }, s)
  | .ok bound =>
    match call.scope.race call.now (max call.now s.busyUntil) with
    | .error (reason, t) => (reply call (.error (.interrupted reason)) t, s)
    | .ok t =>
      if s.transaction = .opened then send db call bound t s
      else (reply call (.error alreadyFinished) t, s)

def failedTo (what : String) (e : DatabaseError) : Executor.Failure :=
  .database s!"Failed to {what} transaction: {e.message}"

-- A transaction that is given up is rolled back.
def drop (s : Session δ) : Session δ :=
  match s.transaction with
  | .opened => { s with database := (db.rollback s.database).2, transaction := .none }
  | _       => { s with transaction := .none }

def start (s : Session δ) : Except Executor.Failure Unit × Session δ :=
  let s := drop db s
  if s.poolClosed then (.error (failedTo "begin" .poolClosed), s)
  else
    match db.start s.database with
    | (.ok (), database) => (.ok (), { s with database, transaction := .opened })
    | (.error e, database) => (.error (failedTo "begin" e), { s with database })

-- Ends the transaction, whether the database agrees or not.
def finish (how : δ → Except DatabaseError Unit × δ) (what : String) (s : Session δ) :
    Except Executor.Failure Unit × Session δ :=
  match s.transaction with
  | .opened =>
    let (result, database) := how s.database
    (result.mapError (failedTo what), { s with database, transaction := .finished })
  | _ => (.error alreadyFinished, s)

def commit (s : Session δ) : Except Executor.Failure Unit × Session δ :=
  finish db.commit "commit" s

def rollback (s : Session δ) : Except Executor.Failure Unit × Session δ :=
  finish db.rollback "roll back" s

end Session

end Outbox.Postgres

import Outbox.Executor

namespace Outbox.Store

structure Row where
  statement : String
  arguments : List Argument
  deriving DecidableEq

def Row.eventId? (r : Row) : Option String :=
  Statement.eventIdOf? r.arguments

structure Memory where
  rows     : List Row := []
  -- The ids of all calls, failed ones included.
  attempts : List String := []
  -- How many of the next calls fail.
  failNext : Nat := 0
  -- The ids of events whose calls fail.
  failing  : List String := []
  deriving DecidableEq

namespace Memory

def empty : Memory := {}

def storedIds (m : Memory) : List String :=
  m.rows.filterMap Row.eventId?

def failNextCalls (m : Memory) (count : Nat) : Memory := { m with failNext := count }

def failEvent (m : Memory) (id : String) : Memory := { m with failing := id :: m.failing }

def clear (m : Memory) : Memory :=
  { m with rows := [], attempts := [], failing := [] }.failNextCalls 0

def insert (m : Memory) (id : String) (row : Row) : Except Executor.Failure Nat × Memory :=
  let m := { m with attempts := m.attempts ++ [id] }
  if 0 < m.failNext then
    (.error (.database "scripted failure"), { m with failNext := m.failNext - 1 })
  else if m.failing.contains id then
    (.error (.database s!"scripted failure for {id}"), m)
  else if m.storedIds.contains id then
    (.error (.database s!"duplicate key value violates unique constraint on event_id {id}"), m)
  else (.ok 1, { m with rows := m.rows ++ [row] })

-- A call takes no time. One without an event's id is refused before it counts as an attempt.
def execute : Executor Memory := fun call m =>
  match call.scope.stopped? call.now with
  | some reason => ({ answer := .error (.interrupted reason) }, m)
  | none =>
    match Statement.eventIdOf? call.arguments with
    | none => ({ answer := .error (.invalidArgument 1 "expected event id text") }, m)
    | some id =>
      let (answer, m) := m.insert id ⟨call.statement, call.arguments⟩
      ({ answer }, m)

end Memory

end Outbox.Store

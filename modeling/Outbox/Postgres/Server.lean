import Outbox.Log
import Outbox.Postgres.Schema
import Outbox.Postgres.Session

namespace Outbox.Postgres

inductive Outcome where
  | rows (count : Nat)
  | refused (text : String) (constraint : Option String)
  | hangs
  deriving DecidableEq, Repr

inductive Entry where
  | started
  | committed
  | rolledBack
  | statement (text : String) (bound : List Bound)
  | script (lines : List String)

structure Server where
  accepting         : Bool
  outcomes          : List Outcome := []
  startOutcomes     : List Outcome := []
  endOutcomes       : List Outcome := []
  migrationOutcomes : List Outcome := []
  log               : List Entry := []

namespace Outcome

-- Longer than anybody waits: a million years.
def forever : Nat := 1000000 * 365 * 86400 * Time.nanosPerSecond

def response : Outcome → Response
  | rows count              => { answer := .ok count }
  | refused text constraint => { answer := .error (.reported text constraint) }
  | hangs                   => { answer := .ok 0, elapsed := forever }

def verdict (o : Outcome) : Except DatabaseError Unit :=
  o.response.answer.map fun _ => ()

-- The next outcome; where none is written down, one row is affected.
def next (outcomes : List Outcome) : Outcome := outcomes.head?.getD (.rows 1)

end Outcome

namespace Server

def note (s : Server) (e : Entry) : Server := { s with log := s.log ++ [e] }

def execute (statement : String) (bound : List Bound) (_ : Instant) (s : Server) :
    Response × Server :=
  ((Outcome.next s.outcomes).response,
    { s.note (.statement statement bound) with outcomes := s.outcomes.tail })

-- An abandoned statement is in the log all the same.
def abandon (statement : String) (bound : List Bound) (sent _ : Instant) (s : Server) : Server :=
  (s.execute statement bound sent).2

def start (s : Server) : Except DatabaseError Unit × Server :=
  ((Outcome.next s.startOutcomes).verdict,
    { s.note .started with startOutcomes := s.startOutcomes.tail })

def finish (e : Entry) (s : Server) : Except DatabaseError Unit × Server :=
  ((Outcome.next s.endOutcomes).verdict,
    { s.note e with endOutcomes := s.endOutcomes.tail })

def database : Database Server where
  execute  := execute
  abandon  := abandon
  start    := start
  commit   := finish .committed
  rollback := finish .rolledBack

def runScript (lines : List String) (s : Server) : Except DatabaseError Unit × Server :=
  ((Outcome.next s.migrationOutcomes).verdict,
    { s.note (.script lines) with migrationOutcomes := s.migrationOutcomes.tail })

end Server

structure PoolOptions where
  minConnections : UInt32
  maxConnections : UInt32
  acquireTimeout : Time.Duration
  idleTimeout    : Option Time.Duration
  deriving DecidableEq, Repr

inductive ConnectError where
  | unreachable
  | migrationFailed (cause : DatabaseError)
  deriving DecidableEq, Repr

def migrate (s : Server) : Except DatabaseError Unit × Server :=
  match s.start with
  | (.error e, s) => (.error e, s)
  | (.ok (), s) =>
    match s.runScript Schema.script with
    | (.ok (), s)   => s.finish .committed
    | (.error e, s) => (.error e, (s.finish .rolledBack).2)

structure Connected where
  result : Except ConnectError Unit
  server : Server
  events : List Log.Event

def connect (options : PoolOptions) (runMigrations : Bool) (server : Server) : Connected :=
  if !server.accepting then ⟨.error .unreachable, server, []⟩
  else
    let connected : Log.Event :=
      ⟨.info, "Connected to PostgreSQL",
        [("min_connections", .number options.minConnections.toNat),
         ("max_connections", .number options.maxConnections.toNat),
         ("run_migrations", .flag runMigrations)]⟩
    if !runMigrations then ⟨.ok (), server, [connected]⟩
    else
      let (result, server) := migrate server
      ⟨result.mapError .migrationFailed, server,
        [connected, ⟨.info, "Running outbox migrations", []⟩]⟩

end Outbox.Postgres

import Outbox.Dialect
import Outbox.Postgres.Server
import Outbox.Settings.Defect

namespace Outbox.Settings

structure DatabaseSection where
  url                : String := ""
  minConnections     : UInt32 := 1
  maxConnections     : UInt32 := 10
  acquireTimeoutSecs : UInt64 := 5
  idleTimeoutSecs    : Option UInt64 := none
  runMigrations      : Bool := false
  deriving DecidableEq, Repr

namespace DatabaseSection

def fields (d : Dialect ν ε) : List (Field ν ε DatabaseSection) :=
  [.mandatory "url" d.text fun s b => { b with url := s },
   .defaulted "min_connections" d.word32 fun n b => { b with minConnections := n },
   .defaulted "max_connections" d.word32 fun n b => { b with maxConnections := n },
   .defaulted "acquire_timeout_secs" d.word64 fun n b => { b with acquireTimeoutSecs := n },
   .defaulted "idle_timeout_secs" (d.optional d.word64) fun n b => { b with idleTimeoutSecs := n },
   .defaulted "run_migrations" d.flag fun r b => { b with runMigrations := r }]

def read (d : Dialect ν ε) : ν → Except ε DatabaseSection :=
  d.record (fields d) {}

def acquireTimeout (b : DatabaseSection) : Time.Duration := .ofSeconds b.acquireTimeoutSecs

def idleTimeout (b : DatabaseSection) : Option Time.Duration := b.idleTimeoutSecs.map .ofSeconds

def poolOptions (b : DatabaseSection) : Postgres.PoolOptions where
  minConnections := b.minConnections
  maxConnections := b.maxConnections
  acquireTimeout := b.acquireTimeout
  idleTimeout    := b.idleTimeout

def urlSchemes : List String := ["postgres://", "postgresql://"]

def hasUrlScheme (url : String) : Bool :=
  urlSchemes.any fun scheme => scheme.toList.isPrefixOf url.toList

def urlVariable : String := "OUTBOX__DATABASE__URL"

def defect? (b : DatabaseSection) : Option Defect :=
  if b.url.isEmpty then some (.missingRequired urlVariable)
  else if !hasUrlScheme b.url then some .invalidDatabaseUrl
  else if b.maxConnections = 0 ∨ b.maxConnections < b.minConnections then some .invalidPoolSize
  else if greatestPoolSize < b.maxConnections then some .poolSizeTooLarge
  else if b.acquireTimeoutSecs = 0 then some .invalidAcquireTimeout
  else none

def validate (b : DatabaseSection) : Except Defect Unit :=
  match b.defect? with
  | some defect => .error defect
  | none        => .ok ()

def redacted : String := "Secret([REDACTED alloc::string::String])"

def shown (b : DatabaseSection) : String :=
  let idle := match b.idleTimeoutSecs with
    | some secs => s!"Some({secs})"
    | none => "None"
  "DatabaseConfig \x7b url: " ++ redacted
    ++ s!", min_connections: {b.minConnections}, max_connections: {b.maxConnections}"
    ++ s!", acquire_timeout_secs: {b.acquireTimeoutSecs}, idle_timeout_secs: {idle}"
    ++ s!", run_migrations: {b.runMigrations} \x7d"

def revealsUrl (b : DatabaseSection) : Bool :=
  Text.occurs b.url.toList b.shown.toList

end DatabaseSection

end Outbox.Settings

import Outbox.Log
import Outbox.Retry
import Outbox.Statement
import Outbox.Table.Injection

namespace Outbox.Publisher

def defaultTableName : String := "outbox_message"
def defaultBatchSize : UInt64 := 100
def defaultMaxRetries : UInt32 := 3
def defaultBackoffUnit : Time.Duration := .ofMillis 100

structure Options where
  tableName        : String := defaultTableName
  batchSize        : UInt64 := defaultBatchSize
  maxRetries       : UInt32 := defaultMaxRetries
  backoffUnit      : Time.Duration := defaultBackoffUnit
  placeholderStyle : PlaceholderStyle := .default
  -- If given, the only names that are accepted.
  allowedTables    : Option (List String) := none
  deriving DecidableEq, Repr

structure Config where
  table            : Table.Name
  batchSize        : Nat
  maxRetries       : UInt32
  backoffUnit      : Time.Duration
  placeholderStyle : PlaceholderStyle
  batchSize_pos    : 0 < batchSize
  deriving DecidableEq

inductive ConfigError where
  | invalidTableName (refusal : Table.Refusal)
  | nonPositiveBatchSize (size : Int)
  | negativeMaxRetries (count : Int)
  deriving DecidableEq, Repr

def ConfigError.kind : ConfigError → String
  | invalidTableName _     => "InvalidTableName"
  | nonPositiveBatchSize _ => "NonPositiveBatchSize"
  | negativeMaxRetries _   => "NegativeMaxRetries"

def ConfigError.message : ConfigError → String
  | invalidTableName refusal  => s!"invalid table name: {refusal.message}"
  | nonPositiveBatchSize size => s!"batch size must be positive, got {size}"
  | negativeMaxRetries count  => s!"max retries cannot be negative, got {count}"

namespace Options

def table (o : Options) : Except Table.Refusal Table.Name :=
  match o.allowedTables with
  | some allowed => Table.Name.parseAllowed o.tableName allowed
  | none => Table.Name.parse o.tableName

end Options

namespace Config

def ofOptions (o : Options) : Except ConfigError Config :=
  if h : o.batchSize = 0 then .error (.nonPositiveBatchSize 0)
  else
    match o.table with
    | .error refusal => .error (.invalidTableName refusal)
    | .ok table => .ok
      { table            := table
        batchSize        := o.batchSize.toNat
        maxRetries       := o.maxRetries
        backoffUnit      := o.backoffUnit
        placeholderStyle := o.placeholderStyle
        batchSize_pos    := Nat.pos_of_ne_zero fun hz => h (UInt64.toNat_inj.mp hz) }

-- What is logged about options of which no configuration can be made. A name that looks like an
-- attack is not repeated.
def warnings (o : Options) : List Log.Event :=
  match ofOptions o with
  | .error (.invalidTableName refusal) =>
    if Table.resemblesInjection o.tableName.toList then
      [⟨.warn, "Rejected outbox table name resembling an injection attempt",
        [("error", .text refusal.message)]⟩]
    else
      [⟨.warn, "Rejected outbox table name",
        [("table", .text o.tableName), ("error", .text refusal.message)]⟩]
  | _ => []

def announcement (c : Config) : Log.Event :=
  ⟨.debug, "Outbox publisher configured",
    [("table", .text c.table.text), ("batch_size", .number c.batchSize),
     ("max_retries", .number c.maxRetries.toNat)]⟩

def setUpEvents (o : Options) : List Log.Event :=
  match ofOptions o with
  | .ok c    => [c.announcement]
  | .error _ => warnings o

def statement (c : Config) : String :=
  Statement.insert c.table c.placeholderStyle

def policy (c : Config) : Retry.Policy := ⟨c.maxRetries, c.backoffUnit⟩

end Config

end Outbox.Publisher

import Outbox.Dialect
import Outbox.Settings.Defect

namespace Outbox.Settings

structure PublisherSection where
  tableName        : String := Publisher.defaultTableName
  batchSize        : Int := Publisher.defaultBatchSize.toNat
  maxRetries       : Int := Publisher.defaultMaxRetries.toNat
  backoffMillis    : UInt64 := .ofNat Publisher.defaultBackoffUnit.wholeMillis
  placeholderStyle : PlaceholderStyle := .default
  allowedTables    : List String := []
  deriving DecidableEq, Repr

namespace PublisherSection

def fields (d : Dialect ν ε) : List (Field ν ε PublisherSection) :=
  [.defaulted "table_name" d.text fun s p => { p with tableName := s },
   .defaulted "batch_size" d.signed64 fun n p => { p with batchSize := n },
   .defaulted "max_retries" d.signed64 fun n p => { p with maxRetries := n },
   .defaulted "backoff_ms" d.word64 fun n p => { p with backoffMillis := n },
   .defaulted "placeholder_style" (d.choice PlaceholderStyle.names) fun s p =>
     { p with placeholderStyle := s },
   .defaulted "allowed_tables" (d.list d.text) fun ts p => { p with allowedTables := ts }]

def read (d : Dialect ν ε) : ν → Except ε PublisherSection :=
  d.record (fields d) {}

def greatestRetries : Nat := 0xffffffff

-- The options that are asked for. Retries beyond the greatest count are as good as that count; an
-- empty list of tables allows all.
def toOptions (p : PublisherSection) : Except Publisher.ConfigError Publisher.Options :=
  if p.batchSize ≤ 0 then .error (.nonPositiveBatchSize p.batchSize)
  else if p.maxRetries < 0 then .error (.negativeMaxRetries p.maxRetries)
  else .ok
    { tableName        := p.tableName
      batchSize        := .ofNat p.batchSize.toNat
      maxRetries       := .ofNat (min p.maxRetries.toNat greatestRetries)
      backoffUnit      := .ofMillis p.backoffMillis
      placeholderStyle := p.placeholderStyle
      allowedTables    := if p.allowedTables.isEmpty then none else some p.allowedTables }

def toConfig (p : PublisherSection) : Except Publisher.ConfigError Publisher.Config := do
  Publisher.Config.ofOptions (← p.toOptions)

def validate (p : PublisherSection) : Except Defect Unit :=
  match p.toConfig with
  | .ok _        => .ok ()
  | .error cause => .error (.publisher cause)

end PublisherSection

end Outbox.Settings

import Outbox.Json.Reading
import Outbox.Settings.Database
import Outbox.Settings.Logging
import Outbox.Settings.Publisher

namespace Outbox

structure Settings where
  database  : Option Settings.DatabaseSection := none
  publisher : Settings.PublisherSection := {}
  logging   : Settings.LoggingSection := {}
  deriving DecidableEq, Repr

namespace Settings

def fields (d : Dialect ν ε) : List (Field ν ε Settings) :=
  [.defaulted "database" (d.optional (DatabaseSection.read d)) fun b s => { s with database := b },
   .defaulted "publisher" (PublisherSection.read d) fun p s => { s with publisher := p },
   .defaulted "logging" (LoggingSection.read d) fun l s => { s with logging := l }]

def read (d : Dialect ν ε) : ν → Except ε Settings :=
  d.record (fields d) {}

def ofJson (text : String) : Except Json.Fault Settings :=
  Json.parse (read Json.textDialect) text.toList

-- The first defect counts: of the database, then of the publisher, then of the log.
def validate (s : Settings) : Except Defect Unit := do
  if let some b := s.database then b.validate
  s.publisher.validate
  s.logging.validate

def publisherOptions (s : Settings) : Except Defect Publisher.Options :=
  s.publisher.toOptions.mapError .publisher

end Settings

end Outbox

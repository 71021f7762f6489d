import Outbox.Dialect
import Outbox.Log.Filter
import Outbox.Settings.Defect

namespace Outbox.Settings

inductive LogFormat where
  | compact
  | json
  deriving DecidableEq, Repr

namespace LogFormat

def all : List LogFormat := [compact, json]

def name : LogFormat → String
  | compact => "compact"
  | json    => "json"

def names : List (String × LogFormat) :=
  all.map fun f => (f.name, f)

end LogFormat

structure LoggingSection where
  level  : String := "info"
  format : LogFormat := .compact
  deriving DecidableEq, Repr

namespace LoggingSection

def fields (d : Dialect ν ε) : List (Field ν ε LoggingSection) :=
  [.defaulted "level" d.text fun s l => { l with level := s },
   .defaulted "format" (d.choice LogFormat.names) fun f l => { l with format := f }]

def read (d : Dialect ν ε) : ν → Except ε LoggingSection :=
  d.record (fields d) {}

def validate (l : LoggingSection) : Except Defect Unit :=
  if Log.Filter.wellFormed l.level then .ok () else .error (.invalidLogFilter l.level)

end LoggingSection

end Outbox.Settings

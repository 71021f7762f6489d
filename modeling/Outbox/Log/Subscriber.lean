import Outbox.Settings.Logging

namespace Outbox.Log

structure Subscriber where
  filter : String
  format : Settings.LogFormat
  deriving DecidableEq, Repr

inductive InstallError where
  | alreadyInstalled
  deriving DecidableEq, Repr

def InstallError.message : InstallError → String
  | alreadyInstalled =>
    "failed to install tracing subscriber: a global default trace dispatcher has already been set"

namespace Subscriber

-- The subscriber that settings ask for; a filter given from outside counts more than theirs.
def ofSettings (l : Settings.LoggingSection) (override? : Option String) : Subscriber :=
  let filter := match override? with
    | some filter => if Filter.wellFormed filter then filter else l.level
    | none => l.level
  ⟨filter, l.format⟩

def install (installed : Option Subscriber) (s : Subscriber) : Except InstallError Subscriber :=
  match installed with
  | some _ => .error .alreadyInstalled
  | none   => .ok s

end Subscriber

end Outbox.Log

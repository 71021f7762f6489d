import Outbox.Publisher.Config

namespace Outbox.Settings

inductive Defect where
  | missingRequired (name : String)
  | invalidDatabaseUrl
  | invalidPoolSize
  | poolSizeTooLarge
  | invalidAcquireTimeout
  | invalidLogFilter (filter : String)
  | publisher (cause : Publisher.ConfigError)
  deriving DecidableEq, Repr

def greatestPoolSize : UInt32 := 100

def Defect.kind : Defect → String
  | missingRequired _     => "MissingRequired"
  | invalidDatabaseUrl    => "InvalidDatabaseUrl"
  | invalidPoolSize       => "InvalidPoolSize"
  | poolSizeTooLarge      => "PoolSizeTooLarge"
  | invalidAcquireTimeout => "InvalidAcquireTimeout"
  | invalidLogFilter _    => "InvalidLogLevel"
  | publisher _           => "Publisher"

def Defect.message : Defect → String
  | missingRequired name     => s!"Required configuration missing: {name}"
  | invalidDatabaseUrl       => "Invalid database URL format"
  | invalidPoolSize          => "Pool min_connections exceeds max_connections"
  | poolSizeTooLarge         => s!"Pool size exceeds maximum allowed ({greatestPoolSize})"
  | invalidAcquireTimeout    => "Pool acquire timeout must be at least one second"
  | invalidLogFilter filter  => s!"Invalid log filter '{filter}'"
  | publisher cause          => s!"Invalid publisher settings: {cause.message}"

end Outbox.Settings

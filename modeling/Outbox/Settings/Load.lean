import Outbox.Settings.Basic
import Outbox.Settings.Dotenv
import Outbox.Settings.File

namespace Outbox.Settings

inductive Error where
  | load (cause : Setting.LoadError)
  | validation (defect : Defect)
  deriving DecidableEq, Repr

def Error.message : Error → String
  | load .fileMissing    => "Configuration loading failed: configuration file not found"
  | load .unknownFormat  => "Configuration loading failed: configuration file of unknown format"
  | load .malformedFile  => "Configuration loading failed: malformed configuration file"
  | load .mismatched     => "Configuration loading failed: invalid type or value"
  | validation defect    => s!"Validation failed: {defect.message}"

-- The environment, completed by the variables of a file if there is one.
def completed (environment : List Variable) (dotenv : Option String) : List Variable :=
  match dotenv with
  | some text => Dotenv.addTo (Variable.distinct environment) text
  | none      => Variable.distinct environment

def ofVariables (start : Setting) (vs : List Variable) : Except Error Settings :=
  (read Setting.dialect (Variable.putAllInto start vs)).mapError .load

def load (environment : List Variable) (dotenv : Option String) : Except Error Settings :=
  ofVariables (.table []) (completed environment dotenv)

def loadFromFile (files : List File) (path : String) (environment : List Variable)
    (dotenv : Option String) : Except Error Settings := do
  let start ← (File.putInto (.table []) files path).mapError .load
  ofVariables start (completed environment dotenv)

end Outbox.Settings

import Outbox.Json.Value
import Outbox.Settings.Reading
import Outbox.Settings.Toml

namespace Outbox

namespace Setting

mutual

-- A JSON value as a setting. Letter case of keys does not count; an integer that does not fit is
-- taken for the nearest double.
def ofJson : Json.Value → Setting
  | .null                => .nil
  | .bool b              => .flag b
  | .number (.integer i) =>
    if leastInteger ≤ i ∧ i ≤ greatestInteger then .integer i else .float (.ofInteger i)
  | .number (.double negative x) => .float (.finite negative x)
  | .text s              => .text s
  | .list items          => .list (ofJsonItems items)
  | .object members      => .table (lowered (ofJsonMembers members))

def ofJsonItems : List Json.Value → List Setting
  | []      => []
  | v :: vs => ofJson v :: ofJsonItems vs

def ofJsonMembers : List (String × Json.Value) → List (String × Setting)
  | []           => []
  | (k, v) :: ms => (k, ofJson v) :: ofJsonMembers ms

end

def putPaths (target : Setting) (entries : List (String × Setting)) : Setting :=
  entries.foldl (fun target (key, value) => target.putPath key.toList value) target

end Setting

namespace Settings

inductive Format where
  | json
  | toml
  deriving DecidableEq, Repr

namespace Format

def extensions : List (String × Format) := [("json", json), ("toml", toml)]

def entries? : Format → String → Option (List (String × Setting))
  | json, text =>
    match Json.Value.parse text with
    | .ok (.object members) => some (Setting.lowered (Setting.ofJsonMembers members))
    | _ => none
  | toml, text => Toml.parse? text

end Format

structure File where
  name : String
  text : String
  deriving DecidableEq, Repr

namespace File

-- What follows the last point of a name; a point at its beginning does not count.
def extension? (name : List Char) : Option String :=
  match (Text.splitAt '.' name).reverse with
  | ending :: before :: rest =>
    if rest.isEmpty && before.isEmpty then none else some (String.ofList ending)
  | _ => none

def steps (path : List Char) : List (List Char) :=
  (Text.splitAt '/' path).filter fun step => step ≠ [] ∧ step ≠ ['.']

def at? (files : List File) (steps : List (List Char)) : Option File :=
  files.find? fun f => File.steps f.name.toList == steps

def format? (f : File) : Option Format := do
  let extension ← extension? (← (File.steps f.name.toList).getLast?)
  Format.extensions.lookup extension

def leadsToFile (path : List Char) : Bool :=
  path.head? != some '/' && (File.steps path).getLast? == (Text.splitAt '/' path).getLast?

-- The file that a path names, with its format. Where there is none the last step may lack the
-- extension.
def locate (files : List File) (path : String) : Except Setting.LoadError (File × Format) :=
  let steps := File.steps path.toList
  match if leadsToFile path.toList then at? files steps else none with
  | some f =>
    match f.format? with
    | some format => .ok (f, format)
    | none => .error .unknownFormat
  | none =>
    let found := Format.extensions.findSome? fun (extension, format) => do
      let last ← steps.getLast?
      if path.toList.head? = some '/' ∨ last = ['.', '.'] then none
      let f ← at? files (steps.dropLast ++ [last ++ '.' :: extension.toList])
      return (f, format)
    match found with
    | some found => .ok found
    | none => .error .fileMissing

def putInto (target : Setting) (files : List File) (path : String) :
    Except Setting.LoadError Setting := do
  let (f, format) ← locate files path
  match format.entries? f.text with
  | some entries => return target.putPaths entries
  | none => throw .malformedFile

end File

end Settings

end Outbox

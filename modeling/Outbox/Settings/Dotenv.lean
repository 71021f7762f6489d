import Outbox.Settings.Dotenv.Line
import Outbox.Settings.Dotenv.Value
import Outbox.Settings.Variable
import Outbox.Text.Mark

namespace Outbox.Dotenv

def isNameStart (c : Char) : Bool := c.isAlpha || c == '_'
def isNameChar (c : Char) : Bool := c.isAlphanum || c == '_' || c == '.'

def name? (s : List Char) : Option (List Char × List Char) :=
  if s.head?.any isNameStart then
    some (s.takeWhile isNameChar, (s.dropWhile isNameChar).dropWhile Text.isBlank)
  else none

def valueOf (vs : List Variable) (name : List Char) : List Char :=
  ((vs.find? (·.name.toList == name)).map (·.value.toList)).getD []

-- The assignment that a text is, from its name on. It may begin with `export`.
def assignment? (vs : List Variable) (s : List Char) : Option Variable := do
  let (name, rest) ← name? s
  let (name, rest) ←
    if name = "export".toList ∧ rest.head? ≠ some '=' then name? rest else some (name, rest)
  match rest with
  | '=' :: s =>
    let s := s.dropWhile Text.isBlank
    let value ← if s.head? = some '#' then some [] else value? (valueOf vs) (.text false) s
    return ⟨String.ofList name, String.ofList value⟩
  | _ => none

-- Adds the variables of lines to those there are. One that is there keeps its value.
def addLines (vs : List Variable) : List (List Char) → List Variable
  | [] => vs
  | line :: rest =>
    match Text.trim line with
    | []       => addLines vs rest
    | '#' :: _ => addLines vs rest
    | s =>
      match assignment? vs s with
      | some v => addLines (Variable.addMissing vs v) rest
      | none => vs

def addTo (vs : List Variable) (text : String) : List Variable :=
  addLines vs (lines (Text.dropMark text.toList))

end Outbox.Dotenv

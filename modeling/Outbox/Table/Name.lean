import Outbox.Text.Blank
import Outbox.Text.Lowercase
import Outbox.Text.Search

namespace Outbox.Table

open Text

inductive Refusal where
  | empty
  | tooLong (length : Nat)
  | dangerousSequence (sequence : String)
  | reservedKeyword (name : String)
  | containsKeyword (keyword name : String)
  | invalidFormat (name : String)
  | systemCatalog (name : String)
  | notAllowed (name : String)
  deriving DecidableEq, Repr

def greatestLength : Nat := 128

def Refusal.kind : Refusal → String
  | empty               => "Empty"
  | tooLong _           => "TooLong"
  | dangerousSequence _ => "DangerousSequence"
  | reservedKeyword _   => "ReservedKeyword"
  | containsKeyword ..  => "ContainsKeyword"
  | invalidFormat _     => "InvalidFormat"
  | systemCatalog _     => "SystemCatalog"
  | notAllowed _        => "NotAllowed"

def Refusal.message : Refusal → String
  | empty => "identifier cannot be empty"
  | tooLong length => s!"identifier too long ({length} characters, max 128)"
  | dangerousSequence sequence => s!"identifier contains dangerous sequence '{sequence}'"
  | reservedKeyword name => s!"identifier is a reserved SQL keyword: {name}"
  | containsKeyword keyword name => s!"identifier contains SQL keyword '{keyword}': {name}"
  | invalidFormat name =>
    s!"invalid identifier format: {name} (must start with a letter and contain only letters, "
      ++ "digits, underscores and single dots between segments)"
  | systemCatalog name => s!"identifier references a system catalog: {name}"
  | notAllowed name => s!"identifier is not in the allowed table list: {name}"

def dangerousSequences : List String :=
  ["'", "\"", ";", "--", "/*", "*/", "xp_", "sp_", "fn_", "0x", "0b", "\\", "`", "=", "<", ">", "!",
   "&", "|"]

def deniedKeywords : List String :=
  ["select", "insert", "update", "delete", "drop", "create", "alter", "truncate", "union", "exec",
   "execute", "script", "javascript", "vbscript", "expression", "declare", "begin", "end", "if",
   "while", "for", "loop", "goto", "waitfor", "delay", "sleep", "benchmark", "load_file", "into",
   "outfile", "dumpfile", "information_schema", "sys", "master", "xp_", "sp_", "fn_"]

def catalogMarks : List String :=
  ["information_schema", "pg_", "mysql."]

def firstOccurring (texts : List String) (s : List Char) : Option String :=
  texts.find? fun t => occurs t.toList s

def isWordChar (c : Char) : Bool :=
  c.isAlphanum || c == '_'

def isWord : List Char → Bool
  | []     => false
  | c :: s => c.isAlpha && s.all isWordChar

def isDotted (s : List Char) : Bool :=
  (splitAt '.' s).all isWord

-- Why the text, taken as it is, is no identifier; the first reason that applies.
def identifierRefusal? (s : List Char) : Option Refusal :=
  let lower := lowercase s
  if s.isEmpty then some .empty
  else if greatestLength < s.length then some (.tooLong s.length)
  else if let some sequence := firstOccurring dangerousSequences s then
    some (.dangerousSequence sequence)
  else if deniedKeywords.any (·.toList == lower) then some (.reservedKeyword (String.ofList s))
  else if let some keyword := firstOccurring deniedKeywords lower then
    some (.containsKeyword keyword (String.ofList s))
  else if !isDotted s then some (.invalidFormat (String.ofList s))
  else none

-- An identifier may still name a catalog of the database itself.
def nameRefusal? (s : List Char) : Option Refusal :=
  (identifierRefusal? s).or <|
    if (firstOccurring catalogMarks (lowercase s)).isSome then
      some (.systemCatalog (String.ofList s))
    else none

structure Name where
  text : String
  safe : nameRefusal? text.toList = none
  deriving DecidableEq

namespace Name

-- Blanks around the name do not count; its case is kept.
def parse (text : String) : Except Refusal Name :=
  let name := String.ofList (trim text.toList)
  match h : nameRefusal? name.toList with
  | none => .ok ⟨name, h⟩
  | some refusal => .error refusal

def listed (name : Name) (allowed : List String) : Bool :=
  allowed.any fun a => lowercase (trim a.toList) == lowercase name.text.toList

def parseAllowed (text : String) (allowed : List String) : Except Refusal Name := do
  let name ← parse text
  if name.listed allowed then return name else throw (.notAllowed name.text)

end Name

end Outbox.Table

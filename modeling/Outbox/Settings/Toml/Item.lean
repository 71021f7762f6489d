import Outbox.Settings.Toml.Moment
import Outbox.Settings.Toml.Number
import Outbox.Settings.Toml.Text

namespace Outbox.Toml

-- How a table came about: with braces, under a header of its own, on the way of another header, or
-- on the way of an assignment's path.
inductive Origin where
  | braces
  | header
  | passage
  | path
  deriving DecidableEq, Repr

-- The items of `tables` are tables that have one header each.
inductive Item where
  | scalar (s : Setting)
  | moment (m : Moment)
  | array (items : List Item)
  | tables (items : List Item)
  | table (origin : Origin) (entries : List (String × Item))

abbrev Entries := List (String × Item)

namespace Entries

def replace (entries : Entries) (key : String) (item : Item) : Entries :=
  entries.map fun (k, v) => if k = key then (k, item) else (k, v)

def erase (entries : Entries) (key : String) : Entries :=
  entries.filter (·.1 != key)

def add? (entries : Entries) (key : String) (item : Item) : Option Entries :=
  match entries.lookup key with
  | some _ => none
  | none   => some (entries ++ [(key, item)])

-- Puts an item where a path leads. The path makes the tables that it needs; it may pass through
-- tables of headers that stand elsewhere, but the last one must have been made by a path.
def assign? (last : String) (item : Item) : List String → Entries → Option Entries
  | [], entries => entries.add? last item
  | key :: parents, entries =>
    match entries.lookup key with
    | none => do return entries ++ [(key, .table .path (← assign? last item parents []))]
    | some (.table origin inner) =>
      if origin = .path ∨ (origin = .passage ∧ parents ≠ []) then do
        return entries.replace key (.table origin (← assign? last item parents inner))
      else none
    | some (.tables ts) =>
      match ts.getLast? with
      | some (.table origin inner) =>
        if parents = [] then none
        else do
          let inner ← assign? last item parents inner
          return entries.replace key (.tables (ts.dropLast ++ [.table origin inner]))
      | _ => none
    | some _ => none

def change? (f : Entries → Option Entries) : List String → Entries → Option Entries
  | [], entries => f entries
  | key :: parents, entries =>
    match entries.lookup key with
    | none => do return entries ++ [(key, .table .passage (← change? f parents []))]
    | some (.table origin inner) =>
      if origin = .braces then none
      else do return entries.replace key (.table origin (← change? f parents inner))
    | some (.tables ts) =>
      match ts.getLast? with
      | some (.table origin inner) => do
        let inner ← change? f parents inner
        return entries.replace key (.tables (ts.dropLast ++ [.table origin inner]))
      | _ => none
    | some _ => none

end Entries

-- A comma or a bracket follows an item of an array. A comma may stand behind the last one.
def items? (item? : List Char → Option (Item × List Char)) (room : Nat) (s : List Char) :
    Option (List Item × List Char) :=
  match room with
  | 0 => none
  | room + 1 => do
    match ← skipComments? false s with
    | ']' :: rest => return ([], rest)
    | s => do
      let (item, rest) ← item? s
      match ← skipComments? false rest with
      | ']' :: rest => return ([item], rest)
      | ',' :: rest => do
        let (items, rest) ← items? item? room rest
        return (item :: items, rest)
      | _ => none

def assignment? (item? : List Char → Option (Item × List Char)) (s : List Char) :
    Option (Path × Item × List Char) := do
  let (path, rest) ← path? s
  match rest with
  | '=' :: rest => do
    let (item, rest) ← item? (skipBlanks rest)
    return (path, item, rest)
  | _ => none

-- The entries of a table in braces. There is one at least, and no comma behind the last one.
def entries? (item? : List Char → Option (Item × List Char)) (room : Nat) (entries : Entries)
    (s : List Char) : Option (Entries × List Char) :=
  match room with
  | 0 => none
  | room + 1 => do
    let (path, item, rest) ← assignment? item? s
    let entries ← entries.assign? path.last item path.parents
    match skipBlanks rest with
    | '}' :: rest => return (entries, rest)
    | ',' :: rest => entries? item? room entries rest
    | _ => none

def plain? (s : List Char) : Option (Item × List Char) :=
  match s with
  | '"' :: _ | '\'' :: _ =>
    (text? s).map fun (t, rest) => (.scalar (.text (String.ofList t)), rest)
  | 't' :: 'r' :: 'u' :: 'e' :: rest => some (.scalar (.flag true), rest)
  | 'f' :: 'a' :: 'l' :: 's' :: 'e' :: rest => some (.scalar (.flag false), rest)
  | _ =>
    match moment? .plain s with
    | some (m, rest) => some (.moment m, rest)
    | none => (number? s).map fun (n, rest) => (.scalar n, rest)

def item? : Nat → List Char → Option (Item × List Char)
  | 0, s => match s with
    | '[' :: _ | '{' :: _ => none
    | _ => plain? s
  | depth + 1, s => match s with
    | '[' :: s => (items? (item? depth) s.length s).map fun (items, rest) => (.array items, rest)
    | '{' :: s =>
      match skipBlanks s with
      | '}' :: rest => some (.table .braces [], rest)
      | s =>
        (entries? (item? depth) s.length [] s).map fun (es, rest) => (.table .braces es, rest)
    | _ => plain? s

end Outbox.Toml

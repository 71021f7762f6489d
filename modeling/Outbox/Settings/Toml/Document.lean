import Outbox.Settings.Toml.Item

namespace Outbox.Toml

inductive Statement where
  | table (path : Path)
  | further (path : Path)
  | assignment (path : Path) (item : Item)

def statement? (s : List Char) : Option (Statement × List Char) :=
  match s with
  | '[' :: '[' :: s => do
    let (path, rest) ← path? s
    match rest with
    | ']' :: ']' :: rest => return (.further path, rest)
    | _ => none
  | '[' :: s => do
    let (path, rest) ← path? s
    match rest with
    | ']' :: rest => return (.table path, rest)
    | _ => none
  | s => (assignment? (item? greatestDepth) s).map fun (path, item, rest) =>
    (.assignment path item, rest)

def statements? (room : Nat) (s : List Char) : Option (List Statement) :=
  match room, skipBlanks s with
  | _, [] => some []
  | 0, _ :: _ => none
  | room + 1, c :: s =>
    if c = '#' ∨ c = '\n' ∨ c = '\r' then nextLine? (c :: s) >>= statements? room
    else do
      let (statement, rest) ← statement? (c :: s)
      return statement :: (← nextLine? rest >>= statements? room)

structure Section where
  header      : Statement
  assignments : List (Path × Item)

def group : List Statement → List (Path × Item) × List Section
  | [] => ([], [])
  | .assignment path item :: statements =>
    let (own, sections) := group statements
    ((path, item) :: own, sections)
  | header :: statements =>
    let (own, sections) := group statements
    ([], ⟨header, own⟩ :: sections)

def Entries.assignAll? (entries : Entries) (assignments : List (Path × Item)) : Option Entries :=
  assignments.foldlM (fun entries (path, item) => entries.assign? path.last item path.parents)
    entries

-- Adds a table under a header. It must not have been there, other than on the way of headers.
def Entries.addTable? (assignments : List (Path × Item)) (key : String) (entries : Entries) :
    Option Entries :=
  match entries.lookup key with
  | none => do return entries ++ [(key, .table .header (← Entries.assignAll? [] assignments))]
  | some (.table .passage inner) => do
    let inner ← Entries.assignAll? inner assignments
    return Entries.erase entries key ++ [(key, .table .header inner)]
  | some _ => none

def Entries.addFurther? (assignments : List (Path × Item)) (key : String) (entries : Entries) :
    Option Entries := do
  let table := Item.table .header (← Entries.assignAll? [] assignments)
  match entries.lookup key with
  | none => return entries ++ [(key, .tables [table])]
  | some (.tables ts) => return Entries.replace entries key (.tables (ts ++ [table]))
  | some _ => none

def Section.addTo? (x : Section) (entries : Entries) : Option Entries :=
  match x.header with
  | .table path     => entries.change? (Entries.addTable? x.assignments path.last) path.parents
  | .further path   => entries.change? (Entries.addFurther? x.assignments path.last) path.parents
  | .assignment _ _ => none

def document? (s : List Char) : Option Entries := do
  let (own, sections) := group (← statements? s.length s)
  sections.foldlM (fun entries x => x.addTo? entries) (← Entries.assignAll? [] own)

end Outbox.Toml

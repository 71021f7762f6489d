import Outbox.Settings.Toml.Document
import Outbox.Text.Mark

namespace Outbox.Toml

-- The key of a table that stands for the moment whose text it holds.
def momentKey : String := "$__toml_private_datetime"

def embedded? : Entries → Option (Option Setting)
  | (key, .scalar (.text s)) :: _ =>
    if key = momentKey then some ((Moment.ofText? s.toList).map fun m => .text m.text) else none
  | (key, _) :: _ => if key = momentKey then some none else none
  | [] => none

mutual

-- The setting of an item. Moments become texts.
def Item.setting? : Item → Option Setting
  | .scalar s        => some s
  | .moment m        => some (.text m.text)
  | .array items     => (settings? items).map .list
  | .tables items    => (settings? items).map .list
  | .table _ entries =>
    match embedded? entries with
    | some s => s
    | none => (members? entries).map fun members => .table (Setting.lowered members)

def settings? : List Item → Option (List Setting)
  | [] => some []
  | item :: rest => do
    let s ← item.setting?
    return s :: (← settings? rest)

def members? : List (String × Item) → Option (List (String × Setting))
  | [] => some []
  | (key, item) :: rest => do
    let s ← item.setting?
    return (key, s) :: (← members? rest)

end

def parse? (text : String) : Option (List (String × Setting)) := do
  match ← Item.setting? (.table .header (← document? (Text.dropMark text.toList))) with
  | .table entries => return entries
  | _ => none

end Outbox.Toml

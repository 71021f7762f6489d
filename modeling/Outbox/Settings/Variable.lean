import Outbox.Settings.Path
import Outbox.Text.Lowercase
import Outbox.Text.Search

namespace Outbox

namespace Setting

-- What a text means. A text that is neither a truth value nor a number may be a list.
def ofText (isList : Bool) (text : String) : Setting :=
  let cs := text.toList
  let lower := String.ofList (Text.lowercase cs)
  if lower = "true" then .flag true
  else if lower = "false" then .flag false
  else
    match Decimal.integer? leastInteger greatestInteger cs, Decimal.Double.parse? cs with
    | some i, _ => .integer i
    | none, some x => .float x
    | none, none =>
      if isList then .list ((Text.splitAt ',' cs).map fun item => .text (String.ofList item))
      else .text text

end Setting

structure Variable where
  name  : String
  value : String
  deriving DecidableEq, Repr

namespace Variable

def leading : List Char := ['o', 'u', 't', 'b', 'o', 'x', '_', '_']

def underscoresToPoints : List Char → List Char
  | '_' :: '_' :: rest => '.' :: underscoresToPoints rest
  | c :: rest          => c :: underscoresToPoints rest
  | []                 => []

-- The key that a variable sets, if it sets one. Letter case does not count.
def key? (v : Variable) : Option (List Char) :=
  let name := Text.lowercase v.name.toList
  if leading.isPrefixOf name then some (underscoresToPoints (name.drop leading.length)) else none

def listKeys : List (List Char) := ["publisher.allowed_tables".toList]

def setting (v : Variable) (key : List Char) : Setting :=
  .ofText (listKeys.contains key) v.value

def putInto (target : Setting) (v : Variable) : Setting :=
  match v.key? with
  | some key => target.putPath key (v.setting key)
  | none => target

def putAllInto (target : Setting) (vs : List Variable) : Setting :=
  vs.foldl putInto target

def addMissing (vs : List Variable) (v : Variable) : List Variable :=
  if vs.any (·.name == v.name) then vs else vs ++ [v]

def set (vs : List Variable) (v : Variable) : List Variable :=
  if vs.any (·.name == v.name) then vs.map fun w => if w.name = v.name then v else w else vs ++ [v]

-- The variables that are there after all of these were set in turn.
def distinct (vs : List Variable) : List Variable :=
  vs.foldl set []

end Variable

end Outbox

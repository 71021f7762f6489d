import Outbox.Message.Basic
import Outbox.Table.Name

namespace Outbox

inductive Argument where
  | text (s : String)
  | nullableText (s : Option String)
  | json (bytes : Option ByteArray)
  | timestamp (t : Time.Timestamp)
  deriving DecidableEq

-- How a database writes placeholders: `$1`, `$2`, … or always `?`.
inductive PlaceholderStyle where
  | dollar
  | question
  deriving DecidableEq, Repr

namespace PlaceholderStyle

def all : List PlaceholderStyle := [dollar, question]

def name : PlaceholderStyle → String
  | dollar   => "dollar"
  | question => "question"

def names : List (String × PlaceholderStyle) :=
  all.map fun s => (s.name, s)

def default : PlaceholderStyle := dollar

def placeholder (s : PlaceholderStyle) (position : Nat) : String :=
  match s with
  | dollar   => "$" ++ toString position
  | question => "?"

end PlaceholderStyle

namespace Message

def columns : List String :=
  Attribute.all.map Attribute.name

def argument (m : Message) : Attribute → Argument
  | .eventId       => .text m.eventId
  | .eventTopic    => .text m.eventTopic
  | .eventDomain   => .text m.eventDomain
  | .eventType     => .text m.eventType
  | .objectType    => .text m.objectType
  | .producer      => .nullableText m.producer
  | .correlationId => .nullableText m.correlationId
  | .payload       => .json m.payload
  | .metadata      => .json m.metadata
  | .createdAt     => .timestamp m.createdAt

def arguments (m : Message) : List Argument :=
  Attribute.all.map m.argument

end Message

namespace Statement

def placeholders (style : PlaceholderStyle) : List String :=
  (List.range Message.columns.length).map fun i => style.placeholder (i + 1)

def insert (table : Table.Name) (style : PlaceholderStyle) : String :=
  "INSERT INTO " ++ table.text ++ " (" ++ ", ".intercalate Message.columns ++ ") VALUES ("
    ++ ", ".intercalate (placeholders style) ++ ")"

def eventIdOf? : List Argument → Option String
  | .text id :: _ => some id
  | _             => none

theorem eventIdOf?_arguments (m : Message) : eventIdOf? m.arguments = some m.eventId := rfl

end Statement

end Outbox

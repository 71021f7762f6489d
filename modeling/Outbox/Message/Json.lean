import Outbox.Json.Reading
import Outbox.Message.Basic
import Outbox.Time.Notation

namespace Outbox

namespace Time.Timestamp

def toJson (t : Timestamp) : Json.Tree :=
  .ofString (String.ofList t.write)

def ofText (text : String) : Except Json.Fault Timestamp :=
  match read text.toList with
  | some t => .ok t
  | none   => .error .mismatched

def read? (dialect : Dialect ν Json.Fault) (v : ν) : Except Json.Fault Timestamp := do
  ofText (← dialect.text v)

def ofJson (text : String) : Except Json.Fault Timestamp :=
  Json.parse (read? Json.textDialect) text.toList

end Time.Timestamp

namespace Message

open Json

def blank (freshId : String) : Message where
  eventId       := freshId
  eventTopic    := ""
  eventDomain   := ""
  eventType     := ""
  objectType    := ""
  producer      := none
  correlationId := none
  payload       := none
  metadata      := none
  createdAt     := .zero

-- Raw JSON in a text: any value with the right grammar, kept as it is written.
def rawOfTree : Tree → Except Fault (Option ByteArray)
  | .null => .ok none
  | t =>
    match t.skim with
    | none   => .ok (some t.render.toUTF8)
    | some _ => .error .mismatched

def rawOfValue : Value → Except Fault (Option ByteArray)
  | .null => .ok none
  | v     => .ok (some v.render.toUTF8)

def fields (dialect : Dialect ν Fault) (raw : ν → Except Fault (Option ByteArray)) :
    List (Field ν Fault Message) :=
  let text := dialect.text
  let optional := dialect.optional dialect.text
  let time := Time.Timestamp.read? dialect
  [.defaulted "event_id" text fun s m => { m with eventId := s },
   .defaulted "event_topic" text fun s m => { m with eventTopic := s },
   .defaulted "event_domain" text fun s m => { m with eventDomain := s },
   .defaulted "event_type" text fun s m => { m with eventType := s },
   .defaulted "object_type" text fun s m => { m with objectType := s },
   .defaulted "producer" optional fun s m => { m with producer := s },
   .defaulted "correlation_id" optional fun s m => { m with correlationId := s },
   .defaulted "payload" raw fun b m => { m with payload := b },
   .defaulted "metadata" raw fun b m => { m with metadata := b },
   .defaulted "created_at" time fun t m => { m with createdAt := t }]

def ofJson (freshId text : String) : Except Fault Message :=
  Json.parse (textDialect.record (fields textDialect rawOfTree) (blank freshId)) text.toList

def ofValueJson (freshId : String) (v : Value) : Except Fault Message :=
  valueDialect.record (fields valueDialect rawOfValue) (blank freshId) v

-- Bytes that are to stand in a record as JSON: blanks around it are left out.
def embed (bytes : ByteArray) : Except Fault Tree :=
  match String.fromUTF8? bytes with
  | none => .error .mismatched
  | some text =>
    match parseTree text.toList with
    | .ok t    => .ok t
    | .error _ => .error .mismatched

def member (m : Message) : Attribute → Except Fault (Option Tree)
  | .eventId       => .ok (some (.ofString m.eventId))
  | .eventTopic    => .ok (some (.ofString m.eventTopic))
  | .eventDomain   => .ok (some (.ofString m.eventDomain))
  | .eventType     => .ok (some (.ofString m.eventType))
  | .objectType    => .ok (some (.ofString m.objectType))
  | .producer      => .ok (m.producer.map .ofString)
  | .correlationId => .ok (m.correlationId.map .ofString)
  | .payload       => m.payload.mapM embed
  | .metadata      => m.metadata.mapM embed
  | .createdAt     => .ok (some m.createdAt.toJson)

def toTree (m : Message) : Except Fault Tree := do
  let members ← Attribute.all.mapM fun a => do
    return (← m.member a).map (a.name, ·)
  return .record (members.filterMap id)

def toJson (m : Message) : Except Fault String :=
  m.toTree.map Tree.render

end Message

end Outbox

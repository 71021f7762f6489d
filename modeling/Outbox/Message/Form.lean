import Outbox.Json.Value
import Outbox.Message.Basic

namespace Outbox.Message

structure Form where
  eventId       : Option String := none
  eventTopic    : String := ""
  eventDomain   : String := ""
  eventType     : String := ""
  objectType    : String := ""
  producer      : Option String := none
  correlationId : Option String := none
  payload       : Option ByteArray := none
  metadata      : Option ByteArray := none
  createdAt     : Option Time.Timestamp := none

inductive Form.Entry where
  | eventId (id : String)
  | eventTopic (topic : String)
  | eventDomain (domain : String)
  | eventType (type : String)
  | objectType (type : String)
  | producer (name : String)
  | correlationId (id : String)
  | payload (bytes : ByteArray)
  | metadata (bytes : ByteArray)
  | jsonPayload (json : Json.Tree)
  | jsonMetadata (json : Json.Tree)
  | createdAt (time : Time.Timestamp)

def nonEmpty? (s : String) : Option String :=
  if s.isEmpty then none else some s

def permissionTopic : String := "acls.events"

namespace Form

def empty : Form := {}

def set (f : Form) : Entry → Form
  | .eventId id          => { f with eventId := some id }
  | .eventTopic topic    => { f with eventTopic := topic }
  | .eventDomain domain  => { f with eventDomain := domain }
  | .eventType type      => { f with eventType := type }
  | .objectType type     => { f with objectType := type }
  | .producer name       => { f with producer := nonEmpty? name }
  | .correlationId id    => { f with correlationId := nonEmpty? id }
  | .payload bytes       => { f with payload := some bytes }
  | .metadata bytes      => { f with metadata := some bytes }
  | .jsonPayload json    => { f with payload := some json.render.toUTF8 }
  | .jsonMetadata json   => { f with metadata := some json.render.toUTF8 }
  | .createdAt time      => { f with createdAt := some time }

def setAll (f : Form) (entries : List Entry) : Form :=
  entries.foldl set f

def permissions : Form := empty.set (.eventTopic permissionTopic)

-- The message as it stands, complete or not. An empty id and the zero time count as not given.
def draft (f : Form) (freshId : String) (now : Time.Timestamp) : Message where
  eventId       := (f.eventId.bind nonEmpty?).getD freshId
  eventTopic    := f.eventTopic
  eventDomain   := f.eventDomain
  eventType     := f.eventType
  objectType    := f.objectType
  producer      := f.producer
  correlationId := f.correlationId
  payload       := f.payload
  metadata      := f.metadata
  createdAt     := (f.createdAt.filter (!·.isZero)).getD now

def build (f : Form) (freshId : String) (now : Time.Timestamp) : Except Defects Message := do
  let m := f.draft freshId now
  m.validate
  return m

end Form

end Outbox.Message

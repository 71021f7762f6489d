import Outbox.Message.Form
import Outbox.Message.ObjectType

namespace Outbox.Message

-- How the values of a type are put into messages. Not every value need have a JSON encoding.
structure Encoding (α : Type) where
  typeName : String
  encode   : α → Except String Json.Tree

structure Draft where
  topic         : Option String := none
  objectType    : Option String := none
  producer      : Option String := none
  correlationId : Option String := none
  payload       : Option ByteArray := none
  metadata      : Option ByteArray := none

namespace Draft

inductive Entry (α : Type) where
  | topic (text : String)
  | topicFrom (f : α → String)
  | objectType (text : String)
  | objectTypeFrom (f : α → String)
  | producer (text : String)
  | producerFrom (f : α → String)
  | correlationId (text : String)
  | correlationIdFrom (f : α → String)
  | payload (bytes : ByteArray)
  | payloadFrom (f : α → ByteArray)
  | metadata (bytes : ByteArray)
  | metadataFrom (f : α → ByteArray)

inductive Failure where
  | unserializable (reason : String)
  | invalid (defects : Defects)
  deriving DecidableEq, Repr

def Failure.message : Failure → String
  | unserializable reason => s!"failed to serialize event payload: {reason}"
  | invalid defects       => defects.message

def set (value : α) (d : Draft) : Entry α → Draft
  | .topic text          => { d with topic := some text }
  | .topicFrom f         => { d with topic := some (f value) }
  | .objectType text     => { d with objectType := some text }
  | .objectTypeFrom f    => { d with objectType := some (f value) }
  | .producer text       => { d with producer := some text }
  | .producerFrom f      => { d with producer := some (f value) }
  | .correlationId text  => { d with correlationId := some text }
  | .correlationIdFrom f => { d with correlationId := some (f value) }
  | .payload bytes       => { d with payload := some bytes }
  | .payloadFrom f       => { d with payload := some (f value) }
  | .metadata bytes      => { d with metadata := some bytes }
  | .metadataFrom f      => { d with metadata := some (f value) }

def defaultTopic (eventDomain : String) : String :=
  eventDomain ++ ".events"

def form (d : Draft) (typeName eventDomain eventType : String) (payload : ByteArray) : Form where
  eventTopic    := d.topic.getD (defaultTopic eventDomain)
  eventDomain   := eventDomain
  eventType     := eventType
  objectType    := d.objectType.getD (objectTypeOf typeName)
  producer      := d.producer.bind nonEmpty?
  correlationId := d.correlationId.bind nonEmpty?
  payload       := some payload
  metadata      := d.metadata

def encoded (encoding : Encoding α) (value : α) : Except Failure ByteArray :=
  match encoding.encode value with
  | .ok json      => .ok json.render.toUTF8
  | .error reason => .error (.unserializable reason)

end Draft

-- The message of a value. The value is encoded only if no other payload is given.
def ofValue (encoding : Encoding α) (eventDomain eventType : String) (value : α)
    (entries : List (Draft.Entry α)) (freshId : String) (now : Time.Timestamp) :
    Except Draft.Failure Message := do
  let d := entries.foldl (Draft.set value) {}
  let payload ← match d.payload with
    | some payload => .ok payload
    | none => Draft.encoded encoding value
  match (d.form encoding.typeName eventDomain eventType payload).build freshId now with
  | .ok m => return m
  | .error defects => throw (.invalid defects)

end Outbox.Message

import Outbox.Time.Timestamp
import Outbox.Violation

namespace Outbox

-- which decision procedure is meant, wherever there are several
instance Message.decidableEqBytes : DecidableEq ByteArray := ByteArray.instDecidableEq

-- The body and the metadata are JSON, kept as the bytes that were handed in.
structure Message where
  eventId       : String
  eventTopic    : String
  eventDomain   : String
  eventType     : String
  objectType    : String
  producer      : Option String
  correlationId : Option String
  payload       : Option ByteArray
  metadata      : Option ByteArray
  createdAt     : Time.Timestamp
  deriving DecidableEq

namespace Message

inductive Attribute where
  | eventId
  | eventTopic
  | eventDomain
  | eventType
  | objectType
  | producer
  | correlationId
  | payload
  | metadata
  | createdAt
  deriving DecidableEq, Repr

namespace Attribute

def all : List Attribute :=
  [eventId, eventTopic, eventDomain, eventType, objectType, producer, correlationId, payload,
   metadata, createdAt]

def name : Attribute → String
  | eventId       => "event_id"
  | eventTopic    => "event_topic"
  | eventDomain   => "event_domain"
  | eventType     => "event_type"
  | objectType    => "object_type"
  | producer      => "producer"
  | correlationId => "correlation_id"
  | payload       => "payload"
  | metadata      => "metadata"
  | createdAt     => "created_at"

theorem mem_all (a : Attribute) : a ∈ all := by
  cases a <;> decide

end Attribute

def lacks (m : Message) : Attribute → Bool
  | .eventId       => m.eventId.isEmpty
  | .eventTopic    => m.eventTopic.isEmpty
  | .eventDomain   => m.eventDomain.isEmpty
  | .eventType     => m.eventType.isEmpty
  | .objectType    => m.objectType.isEmpty
  | .createdAt     => m.createdAt.isZero
  | .producer      => false
  | .correlationId => false
  | .payload       => false
  | .metadata      => false

structure Defects where
  violations : List Violation
  deriving DecidableEq, Repr

namespace Defects

def message (d : Defects) : String :=
  "invalid message: " ++ "; ".intercalate (d.violations.map Violation.message)

def hasField (d : Defects) (field : String) : Bool :=
  d.violations.any (·.field == field)

end Defects

def violations (m : Message) : List Violation :=
  (Attribute.all.filter m.lacks).map fun a => .emptyField a.name

def validate (m : Message) : Except Defects Unit :=
  match m.violations with
  | [] => .ok ()
  | vs => .error ⟨vs⟩

theorem validate_eq_ok_iff {m : Message} : m.validate = .ok () ↔ ∀ a, m.lacks a = false := by
  have h : m.validate = .ok () ↔ m.violations = [] := by
    unfold validate
    split <;> simp_all
  simp [h, violations, List.filter_eq_nil_iff, Attribute.mem_all]

end Message

end Outbox

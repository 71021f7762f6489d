import Outbox.Proofs.Message.Filling
/-!
Messages that are made of values, with any number of things said otherwise. What is said last
counts, and what nothing is said of follows from the value. A value without an encoding is the first
thing that is complained of, but only if its encoding is asked for.
-/

namespace Outbox.Message

variable {α β : Type} {encoding : Encoding α} {eventDomain eventType : String} {value : α}
  {entries : List (Draft.Entry α)} {freshId : String} {now : Time.Timestamp}

namespace Draft.Entry

def topic? (value : α) : Entry α → Option String
  | topic text  => some text
  | topicFrom f => some (f value)
  | _           => none

def objectType? (value : α) : Entry α → Option String
  | objectType text  => some text
  | objectTypeFrom f => some (f value)
  | _                => none

def producer? (value : α) : Entry α → Option String
  | producer text  => some text
  | producerFrom f => some (f value)
  | _              => none

def correlationId? (value : α) : Entry α → Option String
  | correlationId text  => some text
  | correlationIdFrom f => some (f value)
  | _                   => none

def payload? (value : α) : Entry α → Option ByteArray
  | payload bytes => some bytes
  | payloadFrom f => some (f value)
  | _             => none

def metadata? (value : α) : Entry α → Option ByteArray
  | metadata bytes => some bytes
  | metadataFrom f => some (f value)
  | _              => none

end Draft.Entry

open Draft (Entry)

-- What is said last of a field.
def lastSaid? (field : Entry α → Option β) (entries : List (Entry α)) : Option β :=
  (entries.filterMap field).getLast?

-- The message of what is said last, with `body` for its payload.
def ofLastSaid (typeName eventDomain eventType : String) (value : α) (entries : List (Entry α))
    (body : ByteArray) (freshId : String) (now : Time.Timestamp) : Message where
  eventId       := freshId
  eventTopic    := (lastSaid? (Entry.topic? value) entries).getD (eventDomain ++ ".events")
  eventDomain   := eventDomain
  eventType     := eventType
  objectType    := (lastSaid? (Entry.objectType? value) entries).getD (objectTypeOf typeName)
  producer      := (lastSaid? (Entry.producer? value) entries).bind nonEmpty?
  correlationId := (lastSaid? (Entry.correlationId? value) entries).bind nonEmpty?
  payload       := some body
  metadata      := lastSaid? (Entry.metadata? value) entries
  createdAt     := now

theorem foldl_set :
    entries.foldl (Draft.set value) {} =
      { topic         := lastSaid? (Entry.topic? value) entries
        objectType    := lastSaid? (Entry.objectType? value) entries
        producer      := lastSaid? (Entry.producer? value) entries
        correlationId := lastSaid? (Entry.correlationId? value) entries
        payload       := lastSaid? (Entry.payload? value) entries
        metadata      := lastSaid? (Entry.metadata? value) entries } := by
  have last {β : Type} (get : Draft → Option β) (field : Entry α → Option β) (he : get {} = none)
      (hs : ∀ d entry, get (d.set value entry) = ((field entry).map some).getD (get d)) :
      get (entries.foldl (Draft.set value) {}) = lastSaid? field entries := by
    rw [get_foldl hs, he, lastSaid?]
    cases (entries.filterMap field).getLast? <;> rfl
  rw [← last (·.topic) (Entry.topic? value) rfl fun _ entry => by cases entry <;> rfl,
    ← last (·.objectType) (Entry.objectType? value) rfl fun _ entry => by cases entry <;> rfl,
    ← last (·.producer) (Entry.producer? value) rfl fun _ entry => by cases entry <;> rfl,
    ← last (·.correlationId) (Entry.correlationId? value) rfl fun _ entry => by
      cases entry <;> rfl,
    ← last (·.payload) (Entry.payload? value) rfl fun _ entry => by cases entry <;> rfl,
    ← last (·.metadata) (Entry.metadata? value) rfl fun _ entry => by cases entry <;> rfl]

theorem draft_form {body : ByteArray} {typeName : String} :
    ((entries.foldl (Draft.set value) {}).form typeName eventDomain eventType body).draft freshId
      now = ofLastSaid typeName eventDomain eventType value entries body freshId now := by
  rw [foldl_set]
  rfl

theorem payloadOf_eq_ok_iff {d : Draft} {body : ByteArray} :
    payloadOf encoding value d = .ok body ↔ d.payload = some body ∨
      d.payload = none ∧ ∃ json, encoding.encode value = .ok json ∧
        body = json.render.toUTF8 := by
  rw [payloadOf, Draft.encoded]
  cases d.payload
  case some given => simp
  case none => cases encoding.encode value <;> simp [eq_comm]

theorem payloadOf_eq_error_iff {d : Draft} {failure : Draft.Failure} :
    payloadOf encoding value d = .error failure ↔ d.payload = none ∧
      ∃ reason, encoding.encode value = .error reason ∧ failure = .unserializable reason := by
  rw [payloadOf, Draft.encoded]
  cases d.payload
  case some given => simp
  case none => cases encoding.encode value <;> simp [eq_comm]

-- An empty domain has a topic of its own, so only an empty text that was said last is no topic.
theorem eventTopic_ofLastSaid {typeName : String} {body : ByteArray} :
    (ofLastSaid typeName eventDomain eventType value entries body freshId now).eventTopic = "" ↔
      lastSaid? (Entry.topic? value) entries = some "" := by
  have hd : eventDomain ++ ".events" ≠ "" := fun h => by
    simpa using congrArg String.length h
  cases hl : lastSaid? (Entry.topic? value) entries <;> simp [ofLastSaid, hl, hd]

theorem eventTopic_mem_emptyTexts {m : Message} :
    "event_topic" ∈ m.emptyTexts ↔ m.eventTopic = "" := by
  simp [emptyTexts]

theorem ofValue_takes_last_said (hi : freshId ≠ "") (hn : now ≠ .zero) :
    let given := lastSaid? (Entry.payload? value) entries
    let result := ofValue encoding eventDomain eventType value entries freshId now
    -- a value without an encoding is complained of first, but only if no payload is given
    (∀ reason, result = .error (.unserializable reason) ↔
      given = none ∧ encoding.encode value = .error reason) ∧
    -- with a payload, the message is made of what was said last,
    ∀ body, (given = some body ∨ given = none ∧ ∃ json, encoding.encode value = .ok json ∧
        body = json.render.toUTF8) →
      let m := ofLastSaid encoding.typeName eventDomain eventType value entries body freshId now
      (m.emptyTexts = [] → result = .ok m) ∧
      -- or else all that is empty is complained of,
      (m.emptyTexts ≠ [] → result = .error (.invalid ⟨m.emptyTexts.map .emptyField⟩)) ∧
      -- the topic only if it was said to be empty
      ("event_topic" ∈ m.emptyTexts ↔ lastSaid? (Entry.topic? value) entries = some "") := by
  intro given result
  have hg : (entries.foldl (Draft.set value) {}).payload = given := by rw [foldl_set]
  have hr : result = payloadOf encoding value (entries.foldl (Draft.set value) {}) >>=
      fun body => ((ofLastSaid encoding.typeName eventDomain eventType value entries body freshId
        now).ifComplete).mapError .invalid := by
    rw [show result = _ from ofValue_eq]
    refine bind_congr fun body => ?_
    rw [build_eq hi hn, draft_form]
  refine ⟨fun reason => ?_, fun body hb => ?_⟩
  case refine_1 =>
    rw [hr]
    cases hp : payloadOf encoding value (entries.foldl (Draft.set value) {})
    case error failure =>
      obtain ⟨hnone, reason', he, rfl⟩ := payloadOf_eq_error_iff.mp hp
      simp [bind, Except.bind, ← hg, hnone, he]
    case ok body =>
      have hno : ¬(given = none ∧ encoding.encode value = .error reason) := fun ⟨hnone, he⟩ => by
        rw [payloadOf_eq_error_iff.mpr ⟨hg.trans hnone, reason, he, rfl⟩] at hp
        cases hp
      refine iff_of_false ?_ hno
      simp only [bind, Except.bind]
      cases (ofLastSaid ..).ifComplete <;> simp [Except.mapError]
  case refine_2 =>
    intro m
    rw [← hg] at hb
    have hr : result = m.ifComplete.mapError .invalid := by
      rw [hr, payloadOf_eq_ok_iff.mpr hb]
      rfl
    refine ⟨fun he => ?_, fun hne => ?_, eventTopic_mem_emptyTexts.trans eventTopic_ofLastSaid⟩
    case refine_1 =>
      rw [hr, ifComplete, he]
      rfl
    case refine_2 =>
      rw [hr, ifComplete]
      split
      · contradiction
      · rfl

-- A number without an encoding, whose payload and producer are given twice, the producer as empty.
theorem ofValue_takes_last_said_unencodable :
    let encoding : Encoding Nat := ⟨"shop::Order", fun _ => .error "no number"⟩
    let given : List (Entry Nat) := [.payload ⟨#[1]⟩, .producerFrom toString, .objectType "order",
      .producer "", .payloadFrom fun n => ⟨#[n.toUInt8]⟩, .metadata ⟨#[]⟩]
    "evt-1" ≠ "" ∧ (⟨1, 0⟩ : Time.Timestamp) ≠ .zero ∧
      ofValue encoding "orders" "created" 7 given "evt-1" ⟨1, 0⟩ =
        .ok ⟨"evt-1", "orders.events", "orders", "created", "order", none, none, some ⟨#[7]⟩,
          some ⟨#[]⟩, ⟨1, 0⟩⟩ ∧
      ofValue encoding "" "created" 7 given "evt-1" ⟨1, 0⟩ =
        .error (.invalid ⟨[.emptyField "event_domain"]⟩) ∧
      ofValue encoding "" "created" 7 [.producerFrom toString] "evt-1" ⟨1, 0⟩ =
        .error (.unserializable "no number") := by
  intro encoding given
  have hi : "evt-1" ≠ "" := by decide
  have hn : (⟨1, 0⟩ : Time.Timestamp) ≠ .zero := by decide
  have ⟨_, hv⟩ := @ofValue_takes_last_said Nat encoding "orders" "created" 7 given _ _ hi hn
  have ⟨_, hd⟩ := @ofValue_takes_last_said Nat encoding "" "created" 7 given _ _ hi hn
  have ⟨he, _⟩ := @ofValue_takes_last_said Nat encoding "" "created" 7 [.producerFrom toString] _ _
    hi hn
  refine ⟨hi, hn, ?_, ?_, (he _).mpr ⟨rfl, rfl⟩⟩
  case refine_1 => exact (hv ⟨#[7]⟩ (.inl rfl)).1 rfl
  case refine_2 => exact (hd ⟨#[7]⟩ (.inl rfl)).2.1 (by decide)

end Outbox.Message

import Outbox.Message.Draft
import Outbox.Proofs.Publisher.Outcome
import Outbox.Proofs.Store.Memory
/-!
Forms that are filled in and built from, in any order. Each build sees the last value of every field
before it, whatever was built in between, and complains of what is empty then. A message that was
built is never refused by the publisher.
-/

namespace Outbox.Message

variable {α β : Type} {f : Form} {m : Message} {entry : Form.Entry} {entries : List Form.Entry}
  {freshId : String} {now : Time.Timestamp}

-- What is done to a form: a value is filled in, or a message is built of what is there.
inductive Act where
  | fill (entry : Form.Entry)
  | build (freshId : String) (now : Time.Timestamp)

namespace Act

def entry? : Act → Option Form.Entry
  | fill entry => some entry
  | build ..   => none

def isBuild : Act → Bool
  | fill _   => false
  | build .. => true

end Act

-- The values that are filled in.
def filled (acts : List Act) : List Form.Entry :=
  acts.filterMap Act.entry?

-- What the builds give, in order. The form is the same behind a build as before it.
def Form.answers (f : Form) : List Act → List (Except Defects Message)
  | []                         => []
  | .fill entry :: acts        => (f.set entry).answers acts
  | .build freshId now :: acts => f.build freshId now :: f.answers acts

namespace Form.Entry

def eventId? : Entry → Option String
  | eventId id => some id
  | _          => none

def eventTopic? : Entry → Option String
  | eventTopic topic => some topic
  | _                => none

def eventDomain? : Entry → Option String
  | eventDomain domain => some domain
  | _                  => none

def eventType? : Entry → Option String
  | eventType type => some type
  | _              => none

def objectType? : Entry → Option String
  | objectType type => some type
  | _               => none

def producer? : Entry → Option String
  | producer name => some name
  | _             => none

def correlationId? : Entry → Option String
  | correlationId id => some id
  | _                => none

def payload? : Entry → Option ByteArray
  | payload bytes    => some bytes
  | jsonPayload json => some json.render.toUTF8
  | _                => none

def metadata? : Entry → Option ByteArray
  | metadata bytes    => some bytes
  | jsonMetadata json => some json.render.toUTF8
  | _                 => none

def createdAt? : Entry → Option Time.Timestamp
  | createdAt time => some time
  | _              => none

end Form.Entry

open Form (Entry)

-- The last value that is filled in for a field.
def last? (field : Entry → Option α) (entries : List Entry) : Option α :=
  (entries.filterMap field).getLast?

-- The message of the last values.
def ofLast (entries : List Entry) (freshId : String) (now : Time.Timestamp) : Message where
  eventId       := ((last? Entry.eventId? entries).bind nonEmpty?).getD freshId
  eventTopic    := (last? Entry.eventTopic? entries).getD ""
  eventDomain   := (last? Entry.eventDomain? entries).getD ""
  eventType     := (last? Entry.eventType? entries).getD ""
  objectType    := (last? Entry.objectType? entries).getD ""
  producer      := (last? Entry.producer? entries).bind nonEmpty?
  correlationId := (last? Entry.correlationId? entries).bind nonEmpty?
  payload       := last? Entry.payload? entries
  metadata      := last? Entry.metadata? entries
  createdAt     := ((last? Entry.createdAt? entries).filter (!·.isZero)).getD now

-- Those of the four texts that have to be filled in that are empty, in order.
def emptyTexts (m : Message) : List String :=
  ([("event_topic", m.eventTopic), ("event_domain", m.eventDomain), ("event_type", m.eventType),
    ("object_type", m.objectType)].filter fun (_, text) => text.isEmpty).map fun (name, _) => name

-- The message, if none of the four texts is empty.
def ifComplete (m : Message) : Except Defects Message :=
  match m.emptyTexts with
  | []    => .ok m
  | names => .error ⟨names.map .emptyField⟩

theorem ifComplete_eq_ok_iff {m' : Message} :
    m.ifComplete = .ok m' ↔ m = m' ∧ m.eventTopic ≠ "" ∧ m.eventDomain ≠ "" ∧
      m.eventType ≠ "" ∧ m.objectType ≠ "" := by
  have h : m.emptyTexts = [] ↔ m.eventTopic ≠ "" ∧ m.eventDomain ≠ "" ∧ m.eventType ≠ "" ∧
      m.objectType ≠ "" := by
    simp [emptyTexts, List.filter_eq_nil_iff]
  rw [← h, ifComplete]
  cases m.emptyTexts <;> simp

-- What is set step by step holds the last value that comes for it, in the form that it keeps it in.
theorem get_foldl {σ ε : Type} {set : σ → ε → σ} {get : σ → β} {field : ε → Option α} {keep : α → β}
    {s : σ} {es : List ε} (hs : ∀ s e, get (set s e) = ((field e).map keep).getD (get s)) :
    get (es.foldl set s) = ((es.filterMap field).getLast?.map keep).getD (get s) := by
  induction es generalizing s
  case nil => rfl
  case cons e es hi =>
    rw [List.foldl_cons, hi, hs]
    cases he : field e
    case none => rw [List.filterMap_cons_none he, Option.map_none, Option.getD_none]
    case some a =>
      rw [List.filterMap_cons_some he, List.getLast?_cons]
      cases (es.filterMap field).getLast? <;> rfl

theorem get_setAll {get : Form → β} {field : Entry → Option α} {keep : α → β}
    (hs : ∀ f entry, get (f.set entry) = ((field entry).map keep).getD (get f)) :
    get (f.setAll entries) = ((last? field entries).map keep).getD (get f) :=
  get_foldl hs

theorem draft_setAll :
    (Form.empty.setAll entries).draft freshId now = ofLast entries freshId now := by
  have text (get : Form → String) (field : Entry → Option String) (he : get .empty = "")
      (hs : ∀ f entry, get (f.set entry) = ((field entry).map id).getD (get f)) :
      get (Form.empty.setAll entries) = (last? field entries).getD "" := by
    rw [get_setAll hs, he, Option.map_id_fun, id]
  have optional (get : Form → Option String) (field : Entry → Option String)
      (he : get .empty = none)
      (hs : ∀ f entry, get (f.set entry) = ((field entry).map nonEmpty?).getD (get f)) :
      get (Form.empty.setAll entries) = (last? field entries).bind nonEmpty? := by
    rw [get_setAll hs, he]
    cases last? field entries <;> rfl
  have kept {α : Type} (get : Form → Option α) (field : Entry → Option α) (he : get .empty = none)
      (hs : ∀ f entry, get (f.set entry) = ((field entry).map some).getD (get f)) :
      get (Form.empty.setAll entries) = last? field entries := by
    rw [get_setAll hs, he]
    cases last? field entries <;> rfl
  rw [Form.draft, ofLast,
    kept (·.eventId) Entry.eventId? rfl fun _ entry => by cases entry <;> rfl,
    text (·.eventTopic) Entry.eventTopic? rfl fun _ entry => by cases entry <;> rfl,
    text (·.eventDomain) Entry.eventDomain? rfl fun _ entry => by cases entry <;> rfl,
    text (·.eventType) Entry.eventType? rfl fun _ entry => by cases entry <;> rfl,
    text (·.objectType) Entry.objectType? rfl fun _ entry => by cases entry <;> rfl,
    optional (·.producer) Entry.producer? rfl fun _ entry => by cases entry <;> rfl,
    optional (·.correlationId) Entry.correlationId? rfl fun _ entry => by cases entry <;> rfl,
    kept (·.payload) Entry.payload? rfl fun _ entry => by cases entry <;> rfl,
    kept (·.metadata) Entry.metadata? rfl fun _ entry => by cases entry <;> rfl,
    kept (·.createdAt) Entry.createdAt? rfl fun _ entry => by cases entry <;> rfl]

theorem eventId_draft (h : freshId ≠ "") : (f.draft freshId now).eventId ≠ "" := by
  cases hi : f.eventId.bind nonEmpty?
  case none => simpa [Form.draft, hi] using h
  case some id =>
    obtain ⟨id', _, hid⟩ := Option.bind_eq_some_iff.mp hi
    simp only [Form.draft, hi, Option.getD_some]
    rw [nonEmpty?] at hid
    split at hid <;> cases hid
    simp_all

theorem createdAt_draft (h : now ≠ .zero) : (f.draft freshId now).createdAt ≠ .zero := by
  cases ht : f.createdAt.filter (!·.isZero)
  case none => simpa [Form.draft, ht] using h
  case some time =>
    have ⟨_, hz⟩ := Option.filter_eq_some_iff.mp ht
    simp only [Form.draft, ht, Option.getD_some]
    simpa [Time.Timestamp.isZero] using hz

theorem violations_eq_emptyTexts (hi : m.eventId ≠ "") (ht : m.createdAt ≠ .zero) :
    m.violations = m.emptyTexts.map .emptyField := by
  have hi : m.eventId.isEmpty = false := by simpa using hi
  have ht : m.createdAt.isZero = false := by simpa [Time.Timestamp.isZero] using ht
  simp only [violations, emptyTexts, Attribute.all, List.filter_cons, List.filter_nil, lacks, hi,
    ht]
  cases m.eventTopic.isEmpty <;> cases m.eventDomain.isEmpty <;> cases m.eventType.isEmpty <;>
    cases m.objectType.isEmpty <;> rfl

-- Only the four texts can be missing, for the id and the time are supplied.
theorem build_eq (hi : freshId ≠ "") (hn : now ≠ .zero) :
    f.build freshId now = (f.draft freshId now).ifComplete := by
  have hid : (f.draft freshId now).eventId ≠ "" := eventId_draft hi
  have htime : (f.draft freshId now).createdAt ≠ .zero := createdAt_draft hn
  have hv := violations_eq_emptyTexts hid htime
  simp only [Form.build, validate, ifComplete, hv]
  cases (f.draft freshId now).emptyTexts <;> rfl

theorem build_eq_ok_iff :
    f.build freshId now = .ok m ↔ f.draft freshId now = m ∧ m.validate = .ok () := by
  rw [Form.build]
  cases hv : (f.draft freshId now).validate <;> simp only [bind, Except.bind]
  case error =>
    refine ⟨nofun, fun ⟨he, hm⟩ => ?_⟩
    rw [he, hm] at hv
    cases hv
  case ok =>
    refine ⟨fun h => ?_, fun ⟨he, _⟩ => he ▸ rfl⟩
    cases h
    exact ⟨rfl, hv⟩

theorem getElem?_answers {before after : List Act} :
    (f.answers (before ++ .build freshId now :: after))[before.countP Act.isBuild]? =
      some ((f.setAll (filled before)).build freshId now) := by
  induction before generalizing f
  case nil => rfl
  case cons act before hi =>
    cases act
    case fill entry => exact hi
    case build id time =>
      have h : (Act.build id time :: before).countP Act.isBuild = before.countP Act.isBuild + 1 :=
        List.countP_cons_of_pos rfl
      rw [h]
      exact hi

-- A message that was built, of a form or of a value.
def Built (m : Message) : Prop :=
  (∃ (f : Form) (freshId : String) (now : Time.Timestamp), f.build freshId now = .ok m) ∨
  ∃ (α : Type) (encoding : Encoding α) (eventDomain eventType : String) (value : α)
    (entries : List (Draft.Entry α)) (freshId : String) (now : Time.Timestamp),
    ofValue encoding eventDomain eventType value entries freshId now = .ok m

-- The payload of a value is what is given for it, or else the encoding of the value.
def payloadOf (encoding : Encoding α) (value : α) (d : Draft) : Except Draft.Failure ByteArray :=
  match d.payload with
  | some payload => .ok payload
  | none         => Draft.encoded encoding value

-- A value that cannot be encoded is complained of before all else.
theorem ofValue_eq {encoding : Encoding α} {eventDomain eventType : String} {value : α}
    {es : List (Draft.Entry α)} :
    ofValue encoding eventDomain eventType value es freshId now =
      (payloadOf encoding value (es.foldl (Draft.set value) {}) >>= fun payload =>
        (((es.foldl (Draft.set value) {}).form encoding.typeName eventDomain eventType
          payload).build freshId now).mapError .invalid) := by
  simp only [ofValue, payloadOf]
  generalize es.foldl (Draft.set value) {} = d
  cases d.payload <;> refine bind_congr fun payload => ?_ <;>
    cases (d.form encoding.typeName eventDomain eventType payload).build freshId now <;> rfl

theorem ofValue_eq_ok_iff {encoding : Encoding α} {eventDomain eventType : String} {value : α}
    {es : List (Draft.Entry α)} :
    ofValue encoding eventDomain eventType value es freshId now = .ok m ↔
      ∃ payload, payloadOf encoding value (es.foldl (Draft.set value) {}) = .ok payload ∧
        ((es.foldl (Draft.set value) {}).form encoding.typeName eventDomain eventType
          payload).build freshId now = .ok m := by
  rw [ofValue_eq]
  generalize es.foldl (Draft.set value) {} = d
  cases payloadOf encoding value d
  case error => simp [bind, Except.bind]
  case ok payload =>
    cases hb : (d.form encoding.typeName eventDomain eventType payload).build freshId now <;>
      simp [bind, Except.bind, Except.mapError, hb]

theorem Built.validate_eq (h : Built m) : m.validate = .ok () := by
  cases h
  case inl h =>
    obtain ⟨_, _, _, h⟩ := h
    exact (build_eq_ok_iff.mp h).2
  case inr h =>
    obtain ⟨_, _, _, _, _, _, _, _, h⟩ := h
    obtain ⟨_, _, h⟩ := ofValue_eq_ok_iff.mp h
    exact (build_eq_ok_iff.mp h).2

open Publisher (publish)

theorem builds_see_last_values (hi : freshId ≠ "") (hn : now ≠ .zero) :
    -- whatever is done before and behind it, a build makes the message of the last values,
    (∀ before after, (Form.empty.answers (before ++ .build freshId now :: after))[
        before.countP Act.isBuild]? = some (ofLast (filled before) freshId now).ifComplete) ∧
    -- the topic of permissions counts as filled in first,
    (∀ acts, Form.permissions.answers acts =
      Form.empty.answers (.fill (.eventTopic permissionTopic) :: acts)) ∧
    -- and no message that was built is refused
    ∀ {σ : Type} (c : Publisher.Config) (ex : Executor σ) (ms : List Message)
      (s : Publisher.Situation σ), (∀ m ∈ ms, Built m) →
      ∀ index defects, (publish c ex ms s).result ≠ .error (.invalidMessage index defects) := by
  refine ⟨fun before after => ?_, fun _ => rfl, fun c ex ms s hms index defects hr => ?_⟩
  case refine_1 => rw [getElem?_answers, build_eq hi hn, draft_setAll]
  case refine_2 =>
    have ⟨hl, hd, _⟩ := Publisher.publish_invalidMessage_iff.mp hr
    rw [(hms _ (List.getElem_mem hl)).validate_eq] at hd
    cases hd

-- A failed build in the middle, a text filled in twice, and three values that count as not given.
theorem builds_see_last_values_refilled :
    let before : List Act :=
      [.fill (.eventTopic "orders"), .fill (.producer "shop"), .build "evt-1" ⟨1, 0⟩,
       .fill (.eventTopic "returns"), .fill (.eventDomain "orders"), .fill (.eventType "created"),
       .fill (.objectType "order"), .fill (.producer ""), .fill (.eventId ""),
       .fill (.createdAt .zero)]
    let m : Message := ⟨"evt-2", "returns", "orders", "created", "order", none, none, none, none,
      ⟨2, 0⟩⟩
    "evt-2" ≠ "" ∧ (⟨2, 0⟩ : Time.Timestamp) ≠ .zero ∧
      (Form.empty.answers (before ++ [.build "evt-2" ⟨2, 0⟩]))[1]? = some (.ok m) ∧
      Built m ∧ ∀ index defects,
        (publish (.sample 1) Store.Memory.execute [m] ⟨{}, .background, 0⟩).result ≠
          .error (.invalidMessage index defects) := by
  intro before m
  have hi : "evt-2" ≠ "" := by decide
  have hn : (⟨2, 0⟩ : Time.Timestamp) ≠ .zero := by decide
  have ⟨hb, _, hp⟩ := builds_see_last_values hi hn
  have hm : Built m := .inl ⟨Form.empty.setAll (filled before), "evt-2", ⟨2, 0⟩, rfl⟩
  refine ⟨hi, hn, hb before [], hm, hp _ _ [m] _ ?_⟩
  simpa using hm

end Outbox.Message

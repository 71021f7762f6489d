import Outbox.Proofs.Message.Filling
import Outbox.Proofs.Message.RoundTrip
/-!
The bodies of messages that are made of values. The body is the encoding of the value, and it is
read back unless it is null: a null is written like any other value and read as no body at all.
-/

namespace Outbox.Message

open Json

variable {α : Type} {encoding : Encoding α} {eventDomain eventType : String} {value : α}
  {json : Tree} {entry : Draft.Entry α} {entries : List (Draft.Entry α)} {d : Draft}
  {freshId text : String} {now : Time.Timestamp} {m : Message}

-- Is another payload given than the encoding?
def Draft.Entry.isPayload : Entry α → Bool
  | payload _     => true
  | payloadFrom _ => true
  | _             => false

theorem Draft.payload_set (h : entry.isPayload = false) :
    (d.set value entry).payload = d.payload := by
  cases entry <;> first | rfl | cases h

theorem Draft.payload_foldl (h : ∀ entry ∈ entries, entry.isPayload = false) :
    (entries.foldl (Draft.set value) d).payload = d.payload := by
  induction entries generalizing d
  case nil => rfl
  case cons entry entries hi =>
    rw [List.forall_mem_cons] at h
    rw [List.foldl_cons, hi h.2, payload_set h.1]

theorem form_build_eq_ok_iff {payload : ByteArray} {typeName : String} (hi : freshId ≠ "")
    (hn : now ≠ .zero) :
    (∃ m, (d.form typeName eventDomain eventType payload).build freshId now = .ok m) ↔
      d.topic ≠ some "" ∧ eventDomain ≠ "" ∧ eventType ≠ "" ∧
        d.objectType.getD (objectTypeOf typeName) ≠ "" := by
  have ht : d.topic.getD (Draft.defaultTopic eventDomain) = "" ↔ d.topic = some "" := by
    cases d.topic <;> simp [Draft.defaultTopic]
  simp only [build_eq hi hn, ifComplete_eq_ok_iff]
  simp [Form.draft, Draft.form, ht]

-- A body that is the text of a value is always written.
theorem exists_toJson_of_body (hp : json.IsProper) (hm : m.payload = some json.render.toUTF8) :
    (∃ text, m.toJson = .ok text) ↔ ∀ bytes ∈ m.metadata, IsJson bytes := by
  rw [exists_toJson_iff, hm]
  refine and_iff_right ?_
  rintro _ ⟨⟩
  exact exists_embed_iff.mp ⟨json, embed_render hp⟩

-- A body is read back as a reader takes it.
theorem ofJson_toJson_of_body (id : String) (hr : m.createdAt.Representable) (hp : json.IsProper)
    (hm : m.payload = some json.render.toUTF8) (h : m.toJson = .ok text) :
    ofJson id text =
      .ok { m with payload := bytesOf json, metadata := m.metadata.bind kept } := by
  rw [ofJson_toJson hr h, normal, hm, Option.bind_some, kept_eq (embed_render hp)]

theorem ofValue_body (hj : encoding.encode value = .ok json) (hp : json.IsProper)
    (he : ∀ entry ∈ entries, entry.isPayload = false) (hi : freshId ≠ "") (hn : now ≠ .zero)
    (hr : now.Representable) :
    let d := entries.foldl (Draft.set value) {}
    -- it is made unless a text is empty,
    ((∃ m, ofValue encoding eventDomain eventType value entries freshId now = .ok m) ↔
      d.topic ≠ some "" ∧ eventDomain ≠ "" ∧ eventType ≠ "" ∧
        d.objectType.getD (objectTypeOf encoding.typeName) ≠ "") ∧
    ∀ m, ofValue encoding eventDomain eventType value entries freshId now = .ok m →
      -- has the encoding for its body, is written if its metadata is JSON,
      m.payload = some json.render.toUTF8 ∧
      ((∃ text, m.toJson = .ok text) ↔ ∀ bytes ∈ m.metadata, IsJson bytes) ∧
      ∀ text id, m.toJson = .ok text →
        -- and is read back with its body, but without one if that is null
        (json ≠ .null → ofJson id text = .ok { m with metadata := m.metadata.bind kept }) ∧
        (json = .null → ofJson id text =
          .ok { m with payload := none, metadata := m.metadata.bind kept }) := by
  have hd : payloadOf encoding value (entries.foldl (Draft.set value) {}) =
      .ok json.render.toUTF8 := by
    rw [payloadOf, Draft.payload_foldl he, Draft.encoded, hj]
  have hv (m : Message) : ofValue encoding eventDomain eventType value entries freshId now = .ok m ↔
      ((entries.foldl (Draft.set value) {}).form encoding.typeName eventDomain eventType
        json.render.toUTF8).build freshId now = .ok m := by
    simp [ofValue_eq_ok_iff, hd]
  simp only [hv]
  refine ⟨form_build_eq_ok_iff hi hn, fun m hm => ?_⟩
  obtain ⟨rfl, _⟩ := build_eq_ok_iff.mp hm
  refine ⟨rfl, exists_toJson_of_body hp rfl, fun text id h => ?_⟩
  have ht := ofJson_toJson_of_body id hr hp rfl h
  refine ⟨fun hj => ?_, fun hj => ?_⟩
  case refine_1 => rw [ht, bytesOf_eq_some_iff.mpr ⟨hj, rfl⟩]; rfl
  case refine_2 => rw [ht, hj, bytesOf]

-- Values of which one is encoded as null.
def switchEncoding : Encoding (Option Bool) where
  typeName := "app::Switch<bool>"
  encode
    | none   => .ok .null
    | some b => .ok (.bool b)

-- The message of such a value, with the given body.
def switchMessage (body : String) : Message where
  eventId       := "evt-1"
  eventTopic    := "switches.events"
  eventDomain   := "switches"
  eventType     := "set"
  objectType    := "switch"
  producer      := none
  correlationId := none
  payload       := some body.toUTF8
  metadata      := none
  createdAt     := ⟨1705314600, 0⟩

theorem ofValue_body_switch :
    switchEncoding.encode (some true) = .ok (.bool true) ∧
    ofValue switchEncoding "switches" "set" (some true) [] "evt-1" ⟨1705314600, 0⟩ =
      .ok (switchMessage "true") ∧
    ∃ text, (switchMessage "true").toJson = .ok text ∧
      ofJson "evt-2" text = .ok (switchMessage "true") := by
  have hm : ofValue switchEncoding "switches" "set" (some true) [] "evt-1" ⟨1705314600, 0⟩ =
      .ok (switchMessage "true") := by decide +kernel
  have hj : switchEncoding.encode (some true) = .ok (.bool true) := rfl
  have hp : (Tree.bool true).IsProper := trivial
  have he : ∀ entry ∈ ([] : List (Draft.Entry (Option Bool))), entry.isPayload = false := nofun
  have hi : "evt-1" ≠ "" := by decide
  have hn : (⟨1705314600, 0⟩ : Time.Timestamp) ≠ .zero := by decide
  have hr : (⟨1705314600, 0⟩ : Time.Timestamp).Representable := by decide
  have ⟨_, hw, hb⟩ := (ofValue_body hj hp he hi hn hr).2 _ hm
  obtain ⟨text, ht⟩ := hw.mpr nofun
  exact ⟨hj, hm, text, ht, (hb text "evt-2" ht).1 nofun⟩

-- A body that is null is lost.
theorem ofValue_body_lost :
    ofValue switchEncoding "switches" "set" none [] "evt-1" ⟨1705314600, 0⟩ =
      .ok (switchMessage "null") ∧
    ∃ text, (switchMessage "null").toJson = .ok text ∧
      ∀ m, ofJson "evt-2" text = .ok m → m.payload = none ∧ m ≠ switchMessage "null" := by
  have hr : (switchMessage "null").createdAt.Representable := by decide
  have hp : Tree.null.IsProper := trivial
  have hb : (switchMessage "null").payload = some Tree.null.render.toUTF8 := rfl
  obtain ⟨text, ht⟩ := (exists_toJson_of_body hp hb).mpr nofun
  refine ⟨by decide +kernel, text, ht, fun m hm => ?_⟩
  rw [ofJson_toJson_of_body "evt-2" hr hp hb ht] at hm
  cases hm
  exact ⟨rfl, by decide⟩

end Outbox.Message

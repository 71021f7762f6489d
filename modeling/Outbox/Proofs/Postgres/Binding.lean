import Outbox.Postgres.Binding
import Outbox.Proofs.Message.Raw
import Outbox.Statement
/-!
Messages that come as JSON and the arguments that are bound for them. What such a message holds is
always well formed, but it is only bound if it keeps to the limits of values.
-/

namespace Outbox.Postgres

open Json
open Message (IsRaw)

variable {bytes : ByteArray} {o : Option ByteArray} {m : Message}
  {freshId text : String}

-- The text of a value within the limits.
def IsBoundedJson (bytes : ByteArray) : Prop :=
  ∃ t : Tree, t.IsProper ∧ t.IsBounded ∧ bytes = t.render.toUTF8

-- What is bound for JSON that is absent or within the limits.
def KeepsLimits (o : Option ByteArray) : Prop :=
  ∀ bytes ∈ o, IsBoundedJson bytes

def noDocument (position : Nat) : Executor.Failure :=
  .invalidArgument position "not a valid JSON document"

theorem document?_eq_some_iff {v : Value} :
    document? bytes = some v ↔ ∃ s : String, bytes = s.toUTF8 ∧ Value.parse s = .ok v := by
  simp only [document?, ← Message.fromUTF8?_eq_some_iff]
  cases String.fromUTF8? bytes
  case none => simp
  case some s => cases hv : Value.parse s <;> simp [hv, Except.toOption]

theorem exists_document?_iff (h : IsRaw bytes) :
    (∃ v, document? bytes = some v) ↔ IsBoundedJson bytes := by
  obtain ⟨t, ht, rfl⟩ := h
  have hp : (∃ v, document? t.render.toUTF8 = some v) ↔ ∃ v, Value.parse t.render = .ok v := by
    simp only [document?_eq_some_iff, String.toUTF8_eq_toByteArray, String.toByteArray_inj,
      exists_eq_left']
  rw [hp, exists_parse_iff, isDocument_render_iff ht]
  constructor
  case mp => exact fun hb => ⟨t, ht, hb, rfl⟩
  case mpr =>
    rintro ⟨u, hu, hb, he⟩
    have ht := Message.embed_render ht
    rw [he, Message.embed_render hu] at ht
    cases ht
    exact hb

theorem bind_json (position : Nat) (h : ∀ bytes ∈ o, IsRaw bytes) :
    (KeepsLimits o → ∃ b, bind position (.json o) = .ok b) ∧
    (¬KeepsLimits o → bind position (.json o) = .error (noDocument position)) := by
  cases o
  case none => exact ⟨fun _ => ⟨_, rfl⟩, fun hn => absurd (by simp [KeepsLimits]) hn⟩
  case some bytes =>
    have hk : KeepsLimits (some bytes) ↔ ∃ v, document? bytes = some v := by
      rw [exists_document?_iff (h bytes rfl)]
      exact ⟨fun hk => hk bytes rfl, fun hb _ he => Option.some.inj he ▸ hb⟩
    rw [hk]
    cases hd : document? bytes
    case none => simp [bind, hd, noDocument]
    case some v => simp [bind, hd]

theorem bindAll_arguments (h : m.HoldsRaw) :
    (KeepsLimits m.payload → KeepsLimits m.metadata → ∃ bs, bindAll m.arguments = .ok bs) ∧
    (¬KeepsLimits m.payload → bindAll m.arguments = .error (noDocument 8)) ∧
    (KeepsLimits m.payload → ¬KeepsLimits m.metadata →
      bindAll m.arguments = .error (noDocument 9)) := by
  obtain ⟨hpo, hpe⟩ := bind_json 8 h.1
  obtain ⟨hqo, hqe⟩ := bind_json 9 h.2
  have he : bindAll m.arguments = bindFrom 1
      [.text m.eventId, .text m.eventTopic, .text m.eventDomain, .text m.eventType,
        .text m.objectType, .nullableText m.producer, .nullableText m.correlationId,
        .json m.payload, .json m.metadata, .timestamp m.createdAt] := rfl
  refine ⟨fun hp hq => ?_, fun hp => ?_, fun hp hq => ?_⟩
  case refine_1 =>
    obtain ⟨p, hp⟩ := hpo hp
    obtain ⟨q, hq⟩ := hqo hq
    simp only [he, bindFrom, hp, hq]
    exact ⟨_, rfl⟩
  case refine_2 =>
    simp only [he, bindFrom, hpe hp]
    rfl
  case refine_3 =>
    obtain ⟨p, hp⟩ := hpo hp
    simp only [he, bindFrom, hp, hqe hq]
    rfl

theorem bindAll_of_ofJson (h : Message.ofJson freshId text = .ok m) :
    -- what is held is well formed,
    m.HoldsRaw ∧
    -- it is bound if it keeps to the limits,
    ((∃ bs, bindAll m.arguments = .ok bs) ↔ KeepsLimits m.payload ∧ KeepsLimits m.metadata) ∧
    -- and else the first of the two that does not is refused
    (¬KeepsLimits m.payload → bindAll m.arguments = .error (noDocument 8)) ∧
    (KeepsLimits m.payload → ¬KeepsLimits m.metadata →
      bindAll m.arguments = .error (noDocument 9)) := by
  have hm := Message.holdsRaw_of_ofJson h
  obtain ⟨ho, hp, hq⟩ := bindAll_arguments hm
  refine ⟨hm, ⟨fun ⟨bs, hb⟩ => ?_, fun ⟨hp, hq⟩ => ho hp hq⟩, hp, hq⟩
  by_contra hn
  by_cases hk : KeepsLimits m.payload
  case pos => rw [hq hk fun h => hn ⟨hk, h⟩] at hb; cases hb
  case neg => rw [hp hk] at hb; cases hb

-- A complete message with the given payload, as JSON and as it is read.
def textWith (payload : String) : String :=
  "\x7b\"event_topic\":\"t\",\"event_domain\":\"d\",\"event_type\":\"c\",\"object_type\":\"o\","
    ++ "\"payload\":" ++ payload ++ ",\"created_at\":\"2024-01-15T10:30:00Z\"\x7d"

def messageWith (payload : String) : Message :=
  ⟨"evt-1", "t", "d", "c", "o", none, none, some payload.toUTF8, none, ⟨1705314600, 0⟩⟩

set_option maxRecDepth 4000 in
theorem bindAll_of_ofJson_pair :
    let payload := "[\"\\uD83D\\uDE00\",[7]]"
    Message.ofJson "evt-1" (textWith payload) = .ok (messageWith payload) ∧
      (messageWith payload).validate = .ok () ∧
      ∃ bs, bindAll (messageWith payload).arguments = .ok bs := by
  intro payload
  let pair : Quoted := ⟨[.unit 'D' '8' '3' 'D', .unit 'D' 'E' '0' '0'], none⟩
  let number : Numeral := ⟨false, ['7'], none, none⟩
  let seven : Tree := .array [] (.item [] (.number number) [] .close)
  let t : Tree := .array [] (.item [] (.text pair) [] (.item [] seven [] .close))
  have h : Message.ofJson "evt-1" (textWith payload) = .ok (messageWith payload) := by
    decide +kernel
  have hn : number.IsProper :=
    ⟨by simp [AreDigits, number], by simp [number], by simp [number], by simp [number]⟩
  have hs : seven.IsProper := ⟨.nil, .inl rfl, .nil, hn, .nil, trivial⟩
  have hp : pair.IsProper := ⟨by simp [pair, Piece.IsProper, Text.Hex.isDigit], rfl⟩
  have ht : t.IsProper := ⟨.nil, .inl rfl, .nil, hp, .nil, .nil, hs, .nil, trivial⟩
  have hb : t.IsBounded :=
    ⟨⟨rfl, .pair ⟨_, rfl, by decide⟩ ⟨_, rfl, by decide⟩ .nil⟩, ⟨⟨_, rfl⟩, trivial⟩, trivial⟩
  have hj : IsBoundedJson payload.toUTF8 := ⟨t, ht, hb, by decide +kernel⟩
  refine ⟨h, by decide, (bindAll_of_ofJson h).2.1.mpr ⟨?payload, ?metadata⟩⟩
  case payload =>
    rintro _ ⟨⟩
    exact hj
  case metadata => simp [KeepsLimits, messageWith]

-- A number that is too large for a double is JSON all the same.
set_option maxRecDepth 4000 in
theorem refused_of_number_out_of_range :
    Message.ofJson "evt-1" (textWith "1e999") = .ok (messageWith "1e999") ∧
    (messageWith "1e999").validate = .ok () ∧
    bindAll (messageWith "1e999").arguments = .error (noDocument 8) := by
  have h : Message.ofJson "evt-1" (textWith "1e999") = .ok (messageWith "1e999") := by
    decide +kernel
  have hr := Message.holdsRaw_of_ofJson h
  have hp : IsRaw "1e999".toUTF8 := hr.1 _ rfl
  have hd : (document? "1e999".toUTF8).isNone := by decide +kernel
  refine ⟨h, by decide, (bindAll_arguments hr).2.1 fun hk => ?_⟩
  have hk : IsBoundedJson "1e999".toUTF8 := hk _ rfl
  obtain ⟨v, hv⟩ := (exists_document?_iff hp).mpr hk
  rw [hv] at hd
  cases hd

end Outbox.Postgres

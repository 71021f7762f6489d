import Outbox.Proofs.Json.Language
import Outbox.Proofs.Json.Member
import Outbox.Proofs.Json.Record
import Outbox.Proofs.Message.Raw
import Outbox.Proofs.Publisher.Outcome
import Outbox.Proofs.Time.Epoch
import Outbox.Uuid
/-!
The gate behind the reading of messages. Nothing is asked for when a message is read from JSON, so
what is missing is told by the gate: exactly what the text does not give.
-/

namespace Outbox.Message

open Json

variable {m m' : Message} {inside : Blank} {ms ms' : Members} {a : Attribute}
  {freshId text : String}

-- The texts that the members of an object give for an attribute.
def given (ms : Members) (a : Attribute) : List (Except Fault String) :=
  (ms.named a.name).map Tree.text?

-- Is the text a spelling of the zero instant?
def isEpoch : Except Fault String → Bool
  | .ok text => Time.Timestamp.read text.toList = some .zero
  | .error _ => false

-- Is an empty text given, or none at all?
def isLeftEmpty (ms : Members) (a : Attribute) : Bool :=
  given ms a = [] ∨ given ms a = [.ok ""]

-- Is a required attribute not given, or given without a value? An id that is not given is supplied.
def isMissing (ms : Members) : Attribute → Bool
  | .eventId       => given ms .eventId = [.ok ""]
  | .eventTopic    => isLeftEmpty ms .eventTopic
  | .eventDomain   => isLeftEmpty ms .eventDomain
  | .eventType     => isLeftEmpty ms .eventType
  | .objectType    => isLeftEmpty ms .objectType
  | .createdAt     => given ms .createdAt = [] ∨ (given ms .createdAt).any isEpoch
  | .producer      => false
  | .correlationId => false
  | .payload       => false
  | .metadata      => false

-- All that the gate complains of, in the order of the attributes.
def missing (ms : Members) : List Attribute :=
  Attribute.all.filter (isMissing ms)

-- The attributes that the gate looks at.
def required : List Attribute :=
  [.eventId, .eventTopic, .eventDomain, .eventType, .objectType, .createdAt]

-- The members that give these attributes.
def requiredEntries (ms : Members) : List (String × Tree) :=
  ms.entries.filter (·.1 ∈ required.map Attribute.name)

section Order

theorem named_requiredEntries (h : a ∈ required) :
    ms.named a.name = ((requiredEntries ms).filter (·.1 = a.name)).map (·.2) := by
  have hn : a.name ∈ required.map Attribute.name := List.mem_map_of_mem h
  rw [Members.named, requiredEntries, List.filter_filter]
  congr 2
  funext entry
  by_cases he : entry.1 = a.name <;> simp [he, hn]

theorem given_perm (hp : (requiredEntries ms').Perm (requiredEntries ms)) (h : a ∈ required) :
    (given ms' a).Perm (given ms a) := by
  rw [given, given, named_requiredEntries h, named_requiredEntries h]
  exact ((hp.filter _).map _).map _

theorem given_eq_nil_of_perm (h : (given ms' a).Perm (given ms a)) :
    given ms' a = [] ↔ given ms a = [] :=
  ⟨fun he => (he ▸ h).nil_eq.symm, fun he => (he ▸ h).eq_nil⟩

theorem given_eq_empty_of_perm (h : (given ms' a).Perm (given ms a)) :
    given ms' a = [.ok ""] ↔ given ms a = [.ok ""] :=
  ⟨fun he => List.perm_singleton.mp (he ▸ h.symm), fun he => List.perm_singleton.mp (he ▸ h)⟩

theorem isLeftEmpty_of_perm (h : (given ms' a).Perm (given ms a)) :
    isLeftEmpty ms' a = isLeftEmpty ms a := by
  simp only [isLeftEmpty, given_eq_nil_of_perm h, given_eq_empty_of_perm h]

-- What is given under other names, and in which order, does not matter.
theorem missing_of_perm (hp : (requiredEntries ms').Perm (requiredEntries ms)) :
    missing ms' = missing ms := by
  have eventId : (given ms' .eventId).Perm (given ms .eventId) := given_perm hp (by decide)
  have createdAt : (given ms' .createdAt).Perm (given ms .createdAt) := given_perm hp (by decide)
  refine List.filter_congr fun a _ => ?_
  cases a
  case eventId => simp only [isMissing, given_eq_empty_of_perm eventId]
  case eventTopic => exact isLeftEmpty_of_perm (given_perm hp (by decide))
  case eventDomain => exact isLeftEmpty_of_perm (given_perm hp (by decide))
  case eventType => exact isLeftEmpty_of_perm (given_perm hp (by decide))
  case objectType => exact isLeftEmpty_of_perm (given_perm hp (by decide))
  case createdAt => simp only [isMissing, given_eq_nil_of_perm createdAt, createdAt.any_eq]
  all_goals rfl

end Order

section Reading

variable {α : Type} {read : Tree → Except Fault α} {get : Message → α}

theorem record_of_ofJson (object : parseTree text.toList = .ok (.object inside ms))
    (h : ofJson freshId text = .ok m) :
    TextDialect.record (fields textDialect rawOfTree) (blank freshId) (.object inside ms) =
      .ok m := by
  have ⟨b, r, hb, ht, hr, hs⟩ := parseTree_eq_ok_iff.mp object
  rw [ofJson, hs, parse_source hb ht hr] at h
  exact h

-- What a message has in an attribute is read from the one value that is given for it.
theorem get_ofJson (hf : ∀ field ∈ fields textDialect rawOfTree, Fills a.name read get field)
    (object : parseTree text.toList = .ok (.object inside ms)) (h : ofJson freshId text = .ok m) :
    (ms.named a.name = [] ∧ get m = get (blank freshId)) ∨
    (∃ t, ms.named a.name = [t] ∧ read t = .ok (get m)) := by
  have hn : ∃ field ∈ fields textDialect rawOfTree, field.name = a.name := by
    cases a <;> simp [fields, Field.defaulted, Attribute.name]
  exact get_record hf hn (record_of_ofJson object h)

-- The text that a message has in an attribute that is required and a text.
def textOf (m : Message) : Attribute → String
  | .eventId     => m.eventId
  | .eventTopic  => m.eventTopic
  | .eventDomain => m.eventDomain
  | .eventType   => m.eventType
  | .objectType  => m.objectType
  | _            => ""

theorem fills_text (h : a ∈ required) (ht : a ≠ .createdAt) :
    ∀ field ∈ fields textDialect rawOfTree, Fills a.name Tree.text? (textOf · a) field := by
  simp only [fields, List.forall_mem_cons]
  cases a
  case createdAt => exact absurd rfl ht
  case producer | correlationId | payload | metadata => exact absurd h (by decide)
  all_goals
    and_intros
    all_goals first
      | exact .own fun _ _ => rfl
      | exact .other (by decide) fun _ _ => rfl
      | exact List.forall_mem_nil _

theorem fills_createdAt : ∀ field ∈ fields textDialect rawOfTree,
    Fills Attribute.createdAt.name (Time.Timestamp.read? textDialect) (·.createdAt) field := by
  simp only [fields, List.forall_mem_cons]
  and_intros
  all_goals first
    | exact .own fun _ _ => rfl
    | exact .other (by decide) fun _ _ => rfl
    | exact List.forall_mem_nil _

variable (object : parseTree text.toList = .ok (.object inside ms))
  (h : ofJson freshId text = .ok m)

include object h

theorem textOf_ofJson (hr : a ∈ required) (ht : a ≠ .createdAt) :
    (given ms a = [] ∧ textOf m a = textOf (blank freshId) a) ∨
    given ms a = [.ok (textOf m a)] := by
  cases get_ofJson (fills_text hr ht) object h
  case inl h =>
    obtain ⟨hn, hg⟩ := h
    exact .inl ⟨by rw [given, hn, List.map_nil], hg⟩
  case inr h =>
    obtain ⟨t, hn, ht⟩ := h
    exact .inr (by rw [given, hn, List.map_singleton, ht])

theorem isLeftEmpty_eq (hr : a ∈ required) (ht : a ≠ .createdAt)
    (hb : textOf (blank freshId) a = "") : (textOf m a).isEmpty = isLeftEmpty ms a := by
  rw [isLeftEmpty, Bool.eq_iff_iff, decide_eq_true_iff, String.isEmpty_iff]
  cases textOf_ofJson object h hr ht
  case inl h => simp [h.1, h.2, hb]
  case inr h => simp [h]

theorem eventId_ofJson :
    (given ms .eventId = [] ∧ m.eventId = freshId) ∨ given ms .eventId = [.ok m.eventId] :=
  textOf_ofJson object h (a := .eventId) (by decide) (by decide)

theorem createdAt_ofJson :
    (given ms .createdAt = [] ∧ m.createdAt = .zero) ∨
    ∃ text, given ms .createdAt = [.ok text] ∧
      Time.Timestamp.read text.toList = some m.createdAt := by
  cases get_ofJson (a := .createdAt) fills_createdAt object h
  case inl h =>
    obtain ⟨hn, hg⟩ := h
    exact .inl ⟨by rw [given, hn, List.map_nil], hg⟩
  case inr h =>
    obtain ⟨t, hn, ht⟩ := h
    obtain ⟨text, hs, ht⟩ := bind_eq_ok.mp ht
    refine .inr ⟨text, ?_, ?_⟩
    · rw [given, hn, List.map_singleton]
      exact congrArg (fun s => [s]) hs
    · unfold Time.Timestamp.ofText at ht
      split at ht <;> cases ht
      assumption

-- The message lacks what the text does not give.
theorem lacks_eq_isMissing (hi : freshId ≠ "") : m.lacks a = isMissing ms a := by
  cases a
  case eventTopic => exact isLeftEmpty_eq object h (a := .eventTopic) (by decide) (by decide) rfl
  case eventDomain => exact isLeftEmpty_eq object h (a := .eventDomain) (by decide) (by decide) rfl
  case eventType => exact isLeftEmpty_eq object h (a := .eventType) (by decide) (by decide) rfl
  case objectType => exact isLeftEmpty_eq object h (a := .objectType) (by decide) (by decide) rfl
  case eventId =>
    rw [lacks, isMissing, Bool.eq_iff_iff, decide_eq_true_iff, String.isEmpty_iff]
    cases eventId_ofJson object h
    case inl h => simp [h.1, h.2, hi]
    case inr h => simp [h]
  case createdAt =>
    rw [lacks, isMissing, Bool.eq_iff_iff, decide_eq_true_iff, Time.Timestamp.isZero_iff]
    cases createdAt_ofJson object h
    case inl h => simp [h.1, h.2]
    case inr h =>
      obtain ⟨text, hg, ht⟩ := h
      simp [hg, isEpoch, ht]
  all_goals rfl

theorem violations_ofJson (hi : freshId ≠ "") :
    m.violations = (missing ms).map fun a => .emptyField a.name := by
  rw [violations, missing]
  congr 1
  exact List.filter_congr fun a _ => lacks_eq_isMissing object h hi

end Reading

theorem validate_eq_error_iff {defects : Defects} :
    m.validate = .error defects ↔ m.violations ≠ [] ∧ defects.violations = m.violations := by
  obtain ⟨violations⟩ := defects
  unfold validate
  cases m.violations
  case nil => simp
  case cons => simp [eq_comm]

theorem validate_eq_ok_iff_violations : m.validate = .ok () ↔ m.violations = [] := by
  unfold validate
  cases m.violations <;> simp

theorem validate_congr (h : m'.violations = m.violations) : m'.validate = m.validate := by
  unfold validate
  rw [h]

theorem hasField_iff {defects : Defects} {attributes : List Attribute} {field : String}
    (h : defects.violations = attributes.map fun a => .emptyField a.name) :
    defects.hasField field ↔ ∃ a ∈ attributes, a.name = field := by
  simp [Defects.hasField, h, Violation.field]

open Publisher (publish FirstInvalid)

theorem gate_of_ofJson {u : Uuid} (object : parseTree text.toList = .ok (.object inside ms))
    (h : ofJson u.ofRandom.text text = .ok m) :
    -- The gate lets the message through if nothing is missing in the text. If it does not, it tells
    -- all that is missing, in order,
    (m.validate = .ok () ↔ missing ms = []) ∧
    (∀ defects, m.validate = .error defects ↔
      missing ms ≠ [] ∧ defects.violations = (missing ms).map fun a => .emptyField a.name) ∧
    -- and can be asked for every field.
    (∀ defects, m.validate = .error defects → ∀ field : String,
      defects.hasField field ↔ ∃ a ∈ missing ms, a.name = field) ∧
    -- An id that is not given is supplied, so that it is not missing.
    (given ms .eventId = [] → m.eventId = u.ofRandom.text ∧ .eventId ∉ missing ms) ∧
    -- The zero instant counts as no time in all its spellings.
    (∀ separator ∈ ['T', 't', ' '], ∀ zeros (offset : Int), offset.natAbs < 1440 →
      isEpoch (.ok (String.ofList (Time.Timestamp.epochSpelling separator zeros offset)))) ∧
    -- If something is missing, no list with the message is published, and of the list the first
    -- message that is not complete is told.
    (∀ {σ : Type} (c : Publisher.Config) (ex : Executor σ) (messages : List Message)
      (s : Publisher.Situation σ), missing ms ≠ [] → m ∈ messages →
      (publish c ex messages s).calls = [] ∧ (publish c ex messages s).final = s ∧
      ∃ index defects, FirstInvalid messages index defects ∧
        (publish c ex messages s).result = .error (.invalidMessage index defects)) ∧
    -- Other members than those of required attributes do not matter, nor does their order.
    (∀ (u' : Uuid) (text' : String) (inside' : Blank) (ms' : Members) (m' : Message),
      parseTree text'.toList = .ok (.object inside' ms') → ofJson u'.ofRandom.text text' = .ok m' →
      (requiredEntries ms').Perm (requiredEntries ms) → m'.validate = m.validate) := by
  have hv := violations_ofJson object h u.ofRandom.text_ne_empty
  have hn : m.violations = [] ↔ missing ms = [] := by rw [hv, List.map_eq_nil_iff]
  have he (defects : Defects) : m.validate = .error defects ↔
      missing ms ≠ [] ∧ defects.violations = (missing ms).map fun a => .emptyField a.name := by
    rw [validate_eq_error_iff, Ne, hn, hv]
  have hok : m.validate = .ok () ↔ missing ms = [] := by
    rw [← hn, validate_eq_ok_iff_violations]
  refine ⟨hok, he, fun defects hd field => hasField_iff ((he defects).mp hd).2, fun hg => ?id,
    fun separator hs zeros offset ho => ?epoch, fun c ex messages s hm hmem => ?publish,
    fun u' text' inside' ms' m' object' h' hp => ?others⟩
  case id =>
    refine ⟨?_, by simp [missing, isMissing, hg]⟩
    cases eventId_ofJson object h
    case inl hi => exact hi.2
    case inr hi => cases hg.symm.trans hi
  case epoch => simp [isEpoch, Time.Timestamp.read_epochSpelling hs ho]
  case publish =>
    have hr : Publisher.Refused messages := ⟨m, hmem, fun hok' => hm (hok.mp hok')⟩
    have ⟨index, defects, hi⟩ := Publisher.refused_iff.mp hr
    rw [Publisher.publish_of_firstInvalid hi]
    exact ⟨rfl, rfl, index, defects, hi, rfl⟩
  case others =>
    have hv' := violations_ofJson object' h' u'.ofRandom.text_ne_empty
    exact validate_congr (by rw [hv', hv, missing_of_perm hp])

-- An empty id, the zero instant as it is told two hours east, no type of the object, and a member
-- that is passed over.
theorem gate_of_ofJson_midnight :
    let u : Uuid := ⟨List.replicate 16 0, rfl⟩
    let ms := Members.ofList [("event_id", .ofString ""), ("event_type", .ofString "created"),
      ("created_at", .ofString "1970-01-01 02:00:00.0+02:00"), ("extra", .ofString ""),
      ("event_topic", .ofString "orders"), ("event_domain", .ofString "shop")]
    let text := (Tree.object [] ms).render
    let m : Message := ⟨"", "orders", "shop", "created", "", none, none, none, none, .zero⟩
    parseTree text.toList = .ok (.object [] ms) ∧ ofJson u.ofRandom.text text = .ok m ∧
      missing ms = [.eventId, .objectType, .createdAt] ∧
      m.validate = .error ⟨[.emptyField "event_id", .emptyField "object_type",
        .emptyField "created_at"]⟩ := by
  intro u ms text m
  have hp : (Tree.object [] ms).IsProper := by
    refine Tree.isProper_record fun kt hkt => ?_
    simp only [List.mem_cons, List.not_mem_nil, or_false] at hkt
    rcases hkt with rfl | rfl | rfl | rfl | rfl | rfl <;> exact Tree.isProper_ofString _
  have object : parseTree text.toList = .ok (.object [] ms) :=
    parseTree_eq_ok_iff.mpr ⟨[], [], .nil, hp, .nil, by simp [text, Tree.render]⟩
  have h : ofJson u.ofRandom.text text = .ok m := by decide +kernel
  have hm : missing ms = [.eventId, .objectType, .createdAt] := by decide +kernel
  obtain ⟨_, hv, _⟩ := gate_of_ofJson object h
  refine ⟨object, h, hm, (hv _).mpr ⟨by simp [hm], by simp [hm, Attribute.name]⟩⟩

end Outbox.Message

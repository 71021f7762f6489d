import Outbox.Proofs.Message.Raw
import Outbox.Proofs.Time.Notation
/-!
Messages that are written as JSON read back. All that writing asks for is that the payload and the
metadata are JSON; all that is lost are the blanks around them, and nulls.
-/

namespace Outbox.Message

open Json

variable {m : Message} {p q : Option Tree} {tree : Tree} {text freshId : String}

-- The message that is read back: its raw JSON has gone through a record.
def normal (m : Message) : Message :=
  { m with payload := m.payload.bind kept, metadata := m.metadata.bind kept }

-- What is written for each field.
def written (m : Message) (p q : Option Tree) : List (Written Message) :=
  (fields textDialect rawOfTree).zipWith Written.mk
    [some (.ofString m.eventId), some (.ofString m.eventTopic), some (.ofString m.eventDomain),
     some (.ofString m.eventType), some (.ofString m.objectType), m.producer.map .ofString,
     m.correlationId.map .ofString, p, q, some m.createdAt.toJson]

theorem mapM_some_eq_ok {bytes : ByteArray} :
    (some bytes).mapM embed = .ok p ↔ ∃ t, embed bytes = .ok t ∧ some t = p :=
  map_eq_ok

theorem embedded {o : Option ByteArray} (h : o.mapM embed = .ok p) :
    (∀ t ∈ p, t.IsProper) ∧ o.bind kept = p.bind bytesOf := by
  cases o
  case none =>
    cases h
    exact ⟨nofun, rfl⟩
  case some bytes =>
    obtain ⟨t, ht, rfl⟩ := mapM_some_eq_ok.mp h
    refine ⟨?_, kept_eq ht⟩
    rintro _ ⟨⟩
    exact isProper_of_embed ht

theorem exists_mapM_embed_iff {o : Option ByteArray} :
    (∃ p, o.mapM embed = .ok p) ↔ ∀ bytes ∈ o, IsJson bytes := by
  cases o
  case none => exact ⟨fun _ => nofun, fun _ => ⟨none, rfl⟩⟩
  case some bytes =>
    have h : (∃ p, (some bytes).mapM embed = .ok p) ↔ ∃ t, embed bytes = .ok t :=
      exists_map_eq_ok
    rw [h, exists_embed_iff]
    simp

-- What was read back of a field goes in again.
theorem mapM_embed_kept {o : Option ByteArray} (h : o.mapM embed = .ok p)
    (hn : ∀ bytes ∈ o, kept bytes ≠ none) : (o.bind kept).mapM embed = .ok p := by
  cases o
  case none => exact h
  case some bytes =>
    obtain ⟨t, ht, rfl⟩ := mapM_some_eq_ok.mp h
    obtain ⟨bytes', hb⟩ := Option.ne_none_iff_exists'.mp (hn bytes rfl)
    rw [Option.bind_some, hb]
    exact mapM_some_eq_ok.mpr ⟨t, embed_bytesOf (isProper_of_embed ht) (kept_eq ht ▸ hb), rfl⟩

theorem toTree_eq (hp : m.payload.mapM embed = .ok p) (hq : m.metadata.mapM embed = .ok q) :
    m.toTree = .ok (.record ((m.written p q).filterMap Written.member?)) := by
  have h : Attribute.all.mapM (fun a => do return (← m.member a).map (a.name, ·)) =
      (.ok ((m.written p q).map Written.member?) : Except Fault _) := by
    simp only [Attribute.all, List.mapM_cons, List.mapM_nil, member, hp, hq]
    rfl
  rw [toTree, h]
  simp only [bind, Except.bind, List.filterMap_map]
  rfl

theorem toTree_eq_ok_iff :
    m.toTree = .ok tree ↔ ∃ p q, m.payload.mapM embed = .ok p ∧ m.metadata.mapM embed = .ok q ∧
      tree = .record ((m.written p q).filterMap Written.member?) := by
  cases hp : m.payload.mapM embed
  case error =>
    simp [toTree, Attribute.all, member, hp, bind, Except.bind, pure, Except.pure]
  case ok p =>
    cases hq : m.metadata.mapM embed
    case error =>
      simp [toTree, Attribute.all, member, hp, hq, bind, Except.bind, pure, Except.pure]
    case ok q => simp [toTree_eq hp hq, eq_comm]

theorem isProper_written (hp : ∀ t ∈ p, t.IsProper) (hq : ∀ t ∈ q, t.IsProper) :
    (Tree.record ((m.written p q).filterMap Written.member?)).IsProper := by
  have text (o : Option String) : ∀ t ∈ o.map Tree.ofString, t.IsProper :=
    Tree.isProper_of_mem_map Tree.isProper_ofString o
  refine Written.isProper_record ?_
  simp only [written, fields, List.zipWith_cons_cons, List.zipWith_nil_left, List.forall_mem_cons]
  exact ⟨text (some _), text (some _), text (some _), text (some _), text (some _), text _, text _,
    hp, hq, text (some _), by simp⟩

theorem read?_toJson {t : Time.Timestamp} (ht : t.Representable) :
    Time.Timestamp.read? textDialect t.toJson = .ok t := by
  simp only [Time.Timestamp.read?, Time.Timestamp.toJson, text_ofString, bind, Except.bind]
  rw [Time.Timestamp.ofText, String.toList_ofList, Time.Timestamp.read_write ht]

theorem takeAll_written (hm : m.createdAt.Representable) (hp : ∀ t ∈ p, t.IsProper)
    (hq : ∀ t ∈ q, t.IsProper) :
    Written.takeAll (m.written p q) (blank freshId) =
      .ok { m with payload := p.bind bytesOf, metadata := q.bind bytesOf } := by
  have optional (o : Option String) :
      ∀ t ∈ o.map Tree.ofString, textDialect.optional textDialect.text t = .ok o :=
    optional_map text_ofString (fun _ => nofun) o
  have raw {p : Option Tree} (hp : ∀ t ∈ p, t.IsProper) :
      ∀ t ∈ p, rawOfTree t = .ok (p.bind bytesOf) := by
    rintro t ⟨⟩
    exact rawOfTree_eq (hp t rfl)
  simp only [written, fields, blank, List.zipWith_cons_cons, List.zipWith_nil_left]
  refine (Written.takeAll_some (text_ofString _)).trans ?_
  refine (Written.takeAll_some (text_ofString _)).trans ?_
  refine (Written.takeAll_some (text_ofString _)).trans ?_
  refine (Written.takeAll_some (text_ofString _)).trans ?_
  refine (Written.takeAll_some (text_ofString _)).trans ?_
  dsimp only
  refine (Written.takeAll_defaulted (optional _) fun h => ?producer).trans ?_
  case producer => rw [Option.map_eq_none_iff.mp h]
  refine (Written.takeAll_defaulted (optional _) fun h => ?correlation).trans ?_
  case correlation => rw [Option.map_eq_none_iff.mp h]
  dsimp only
  refine (Written.takeAll_defaulted (raw hp) fun h => ?payload).trans ?_
  case payload => rw [h]; rfl
  refine (Written.takeAll_defaulted (raw hq) fun h => ?metadata).trans ?_
  case metadata => rw [h]; rfl
  refine (Written.takeAll_some (read?_toJson hm)).trans ?_
  rfl

theorem toJson_eq_ok_iff :
    m.toJson = .ok text ↔ ∃ p q, m.payload.mapM embed = .ok p ∧ m.metadata.mapM embed = .ok q ∧
      text = (Tree.record ((m.written p q).filterMap Written.member?)).render := by
  refine map_eq_ok.trans ?_
  simp only [toTree_eq_ok_iff]
  constructor
  case mp =>
    rintro ⟨_, ⟨p, q, hp, hq, rfl⟩, rfl⟩
    exact ⟨p, q, hp, hq, rfl⟩
  case mpr =>
    rintro ⟨p, q, hp, hq, rfl⟩
    exact ⟨_, ⟨p, q, hp, hq, rfl⟩, rfl⟩

theorem exists_toJson_iff :
    (∃ text, m.toJson = .ok text) ↔
      (∀ bytes ∈ m.payload, IsJson bytes) ∧ ∀ bytes ∈ m.metadata, IsJson bytes := by
  simp only [toJson_eq_ok_iff, ← exists_mapM_embed_iff]
  exact ⟨fun ⟨_, p, q, hp, hq, _⟩ => ⟨⟨p, hp⟩, q, hq⟩,
    fun ⟨⟨p, hp⟩, q, hq⟩ => ⟨_, p, q, hp, hq, rfl⟩⟩

-- Every field is read back, and none is asked for.
theorem ofJson_toJson (hm : m.createdAt.Representable) (h : m.toJson = .ok text) :
    ofJson freshId text = .ok m.normal := by
  obtain ⟨p, q, hp, hq, rfl⟩ := toJson_eq_ok_iff.mp h
  obtain ⟨hpp, hpk⟩ := embedded hp
  obtain ⟨hqp, hqk⟩ := embedded hq
  have ht := isProper_written (m := m) hpp hqp
  have hn : ((m.written p q).map (·.field.name)).Nodup :=
    (by decide : ((fields textDialect rawOfTree).map (·.name)).Nodup)
  have hf : ∀ f ∈ fields textDialect rawOfTree, f.required = false := by
    simp [fields, Field.defaulted]
  have hv : ∀ w ∈ m.written p q, w.field.required → w.value.isSome := by
    intro w hw hr
    rw [hf w.field (List.mem_map_of_mem (f := (·.field)) hw)] at hr
    cases hr
  calc
    ofJson freshId (Tree.record ((m.written p q).filterMap Written.member?)).render
    _ = textDialect.record (fields textDialect rawOfTree) (blank freshId)
          (Tree.record ((m.written p q).filterMap Written.member?)) := by
      rw [ofJson, Tree.render, String.toList_ofList]
      simpa using parse_source .nil ht .nil
    _ = .ok { m with payload := p.bind bytesOf, metadata := q.bind bytesOf } :=
      Written.record_eq hn hv (takeAll_written hm hpp hqp)
    _ = .ok m.normal := by rw [normal, hpk, hqk]

-- What was read back is written as the same text, unless a null has been lost.
theorem toJson_normal (h : m.toJson = .ok text) (hp : ∀ bytes ∈ m.payload, kept bytes ≠ none)
    (hq : ∀ bytes ∈ m.metadata, kept bytes ≠ none) : m.normal.toJson = .ok text := by
  obtain ⟨p, q, hep, heq, rfl⟩ := toJson_eq_ok_iff.mp h
  exact toJson_eq_ok_iff.mpr ⟨p, q, mapM_embed_kept hep hp, mapM_embed_kept heq hq, rfl⟩

-- A message with a leap second, blanks around its payload and a null for its metadata.
def padded : Message where
  eventId       := "a\"b\\"
  eventTopic    := "users.events"
  eventDomain   := "üsers"
  eventType     := ""
  objectType    := "user\n"
  producer      := none
  correlationId := some ""
  payload       := some " [1e999]\n".toUTF8
  metadata      := some "\tnull".toUTF8
  createdAt     := ⟨1483228799, 1500000000⟩

end Outbox.Message

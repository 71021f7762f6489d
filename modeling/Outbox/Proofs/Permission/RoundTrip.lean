import Outbox.Permission.Json
import Outbox.Proofs.Message.Body
/-!
Permissions that are written as JSON read back, whatever texts they hold: what is absent is left
out, and what is there is written even if it is empty. A message brings them to whoever reads it.
-/

namespace Outbox.Permission

open Json

namespace Object

variable {o : Object}

def written (o : Object) : List (Written Object) :=
  [⟨.mandatory "type" textDialect.text fun s o => { o with type := s }, some (.ofString o.type)⟩,
   ⟨.mandatory "id" textDialect.text fun s o => { o with id := s }, some (.ofString o.id)⟩]

theorem isProper_toTree (o : Object) : o.toTree.IsProper :=
  Tree.isProper_record (by simp [Tree.isProper_ofString])

theorem takeAll_written : Written.takeAll o.written .blank = .ok o :=
  (Written.takeAll_mandatory (text_ofString _)).trans (Written.takeAll_mandatory (text_ofString _))

theorem read_toTree (o : Object) : read textDialect o.toTree = .ok o :=
  have hn : (o.written.map (·.field.name)).Nodup := (by decide : ["type", "id"].Nodup)
  Written.record_eq hn (by simp [written]) takeAll_written

end Object

section Relation

variable {name : String}

def writtenRelation (name : String) : List (Written String) :=
  [⟨.mandatory "name" textDialect.text fun s _ => s, some (.ofString name)⟩]

theorem isProper_relationTree (name : String) : (relationTree name).IsProper :=
  Tree.isProper_record (by simp [Tree.isProper_ofString])

theorem takeAll_writtenRelation : Written.takeAll (writtenRelation name) "" = .ok name :=
  Written.takeAll_mandatory (text_ofString _)

theorem readRelation_relationTree (name : String) :
    readRelation textDialect (relationTree name) = .ok name :=
  have hn : ((writtenRelation name).map (·.field.name)).Nodup := (by decide : ["name"].Nodup)
  Written.record_eq hn (by simp [writtenRelation]) takeAll_writtenRelation

end Relation

namespace Tuple

variable {t : Tuple}

def written (t : Tuple) : List (Written Tuple) :=
  [⟨.defaulted "resource" (textDialect.optional (Object.read textDialect)) fun o t =>
      { t with resource := o }, t.resource.map Object.toTree⟩,
   ⟨.defaulted "subject" (textDialect.optional (Object.read textDialect)) fun o t =>
      { t with subject := o }, t.subject.map Object.toTree⟩,
   ⟨.defaulted "relation" (textDialect.optional (readRelation textDialect)) fun r t =>
      { t with relation := r }, t.relation.map relationTree⟩]

theorem toTree_eq : t.toTree = .record (t.written.filterMap Written.member?) := by
  obtain ⟨resource, subject, relation⟩ := t
  cases resource <;> cases subject <;> cases relation <;> rfl

theorem isProper_toTree (t : Tuple) : t.toTree.IsProper := by
  rw [toTree_eq]
  refine Written.isProper_record ?_
  simp only [written, List.forall_mem_cons]
  exact ⟨Tree.isProper_of_mem_map Object.isProper_toTree _,
    Tree.isProper_of_mem_map Object.isProper_toTree _,
    Tree.isProper_of_mem_map isProper_relationTree _, nofun⟩

theorem takeAll_written : Written.takeAll t.written {} = .ok t := by
  have object (o : Option Object) :
      ∀ tree ∈ o.map Object.toTree, textDialect.optional (Object.read textDialect) tree = .ok o :=
    optional_map Object.read_toTree (fun _ => nofun) o
  have relation (r : Option String) :
      ∀ tree ∈ r.map relationTree, textDialect.optional (readRelation textDialect) tree = .ok r :=
    optional_map readRelation_relationTree (fun _ => nofun) r
  refine (Written.takeAll_defaulted (object _) fun h => ?resource).trans ?_
  case resource => rw [Option.map_eq_none_iff.mp h]
  refine (Written.takeAll_defaulted (object _) fun h => ?subject).trans ?_
  case subject => rw [Option.map_eq_none_iff.mp h]
  refine (Written.takeAll_defaulted (relation _) fun h => ?relation).trans rfl
  case relation => rw [Option.map_eq_none_iff.mp h]

theorem read_toTree (t : Tuple) : read textDialect t.toTree = .ok t := by
  have hn : (t.written.map (·.field.name)).Nodup :=
    (by decide : ["resource", "subject", "relation"].Nodup)
  rw [toTree_eq]
  exact Written.record_eq hn (by simp [written, Field.defaulted]) takeAll_written

end Tuple

namespace Payload

variable {p : Payload}

def written (p : Payload) : List (Written Payload) :=
  [⟨.defaulted "tuples" (textDialect.list (Tuple.read textDialect)) fun ts _ => ⟨ts⟩,
    if p.tuples.isEmpty then none else some (.list (p.tuples.map Tuple.toTree))⟩]

theorem toTree_eq : p.toTree = .record (p.written.filterMap Written.member?) := by
  obtain ⟨tuples⟩ := p
  cases tuples <;> rfl

theorem isProper_toTree (p : Payload) : p.toTree.IsProper := by
  rw [toTree_eq]
  refine Written.isProper_record ?_
  simp only [written, List.forall_mem_cons]
  refine ⟨fun tree ht => ?_, nofun⟩
  split at ht <;> cases ht
  refine Tree.isProper_list fun tree ht => ?_
  obtain ⟨t, _, rfl⟩ := List.mem_map.mp ht
  exact t.isProper_toTree

theorem takeAll_written : Written.takeAll p.written ⟨[]⟩ = .ok p := by
  refine (Written.takeAll_defaulted (fun tree ht => ?given) fun h => ?absent).trans rfl
  case given =>
    split at ht <;> cases ht
    exact list_map Tuple.read_toTree _
  case absent =>
    split at h
    case isTrue he => rw [List.isEmpty_iff.mp he]
    case isFalse => cases h

theorem read_toTree (p : Payload) : read textDialect p.toTree = .ok p := by
  have hn : (p.written.map (·.field.name)).Nodup := (by decide : ["tuples"].Nodup)
  rw [toTree_eq]
  exact Written.record_eq hn (by simp [written, Field.defaulted]) takeAll_written

theorem ofJson_toJson (p : Payload) : ofJson p.toJson = .ok p :=
  calc
    ofJson p.toJson
    _ = read textDialect p.toTree := by
      rw [ofJson, toJson, Tree.render, String.toList_ofList]
      simpa using parse_source .nil p.isProper_toTree .nil
    _ = .ok p := p.read_toTree

theorem toJson_inj {q : Payload} : q.toJson = p.toJson ↔ q = p := by
  refine ⟨fun h => ?_, fun h => h ▸ rfl⟩
  have hq := ofJson_toJson q
  rw [h, ofJson_toJson p] at hq
  cases hq
  rfl

end Payload

open Message (Form IsJson)

-- Filling in what is no payload leaves the payload alone.
theorem payload_setAll {f : Form} {entries : List Form.Entry}
    (h : ∀ entry ∈ entries, entry.payload? = none) : (f.setAll entries).payload = f.payload := by
  have hs (f : Form) (entry : Form.Entry) :
      (f.set entry).payload = (entry.payload?.map some).getD f.payload := by
    cases entry <;> rfl
  have hl : Message.last? Form.Entry.payload? entries = none := by
    rw [Message.last?, List.filterMap_eq_nil_iff.mpr h]
    rfl
  rw [Message.get_setAll hs, hl]
  rfl

theorem payload_roundTrip (p : Payload) :
    -- what is written reads back, so nothing absent is written as something empty,
    Payload.ofJson p.toJson = .ok p ∧ (∀ q : Payload, q.toJson = p.toJson ↔ q = p) ∧
    -- and a list of tuples is left out if it is empty
    (p.toJson = "\x7b\x7d" ↔ p.tuples = []) ∧
    ∀ (f : Form) (after : List Form.Entry) (freshId : String) (now : Time.Timestamp) (m : Message),
      (∀ entry ∈ after, entry.payload? = none) →
      ((f.set (.jsonPayload p.toTree)).setAll after).build freshId now = .ok m →
      m.createdAt.Representable →
      -- a message that carries the payload is written if its metadata is JSON,
      ((∃ text, m.toJson = .ok text) ↔ ∀ bytes ∈ m.metadata, IsJson bytes) ∧
      -- and reads back as a message that carries the same payload
      ∀ text id, m.toJson = .ok text → ∃ m', Message.ofJson id text = .ok m' ∧
        (m'.payload.bind String.fromUTF8?).map Payload.ofJson = some (.ok p) := by
  have he : (⟨[]⟩ : Payload).toJson = "\x7b\x7d" := by decide
  refine ⟨p.ofJson_toJson, fun _ => Payload.toJson_inj, ?_, fun f after _ _ m ha hb hr => ?_⟩
  case refine_1 => rw [← he, Payload.toJson_inj, Payload.mk.injEq]
  case refine_2 =>
    have hm : m.payload = some p.toTree.render.toUTF8 := by
      obtain ⟨rfl, _⟩ := Message.build_eq_ok_iff.mp hb
      exact payload_setAll ha
    have hn : p.toTree ≠ .null := nofun
    have hd : String.fromUTF8? p.toTree.render.toUTF8 = some p.toJson :=
      Message.fromUTF8?_eq_some_iff.mpr rfl
    refine ⟨Message.exists_toJson_of_body p.isProper_toTree hm, fun text id ht => ⟨_,
      Message.ofJson_toJson_of_body id hr p.isProper_toTree hm ht, ?_⟩⟩
    rw [Message.bytesOf_eq_some_iff.mpr ⟨hn, rfl⟩, Option.bind_some, hd, Option.map_some,
      p.ofJson_toJson]

-- Objects and relations without texts, a tuple without parts, and texts that have to be escaped.
-- They are carried under the topic of permissions.
theorem payload_roundTrip_blank :
    let blank : Tuple := ⟨some .blank, none, some ""⟩
    let p : Payload := ⟨[blank, {}, ⟨none, some ⟨"a\"\n", "ü"⟩, none⟩]⟩
    let f := Form.permissions.set (.jsonPayload p.toTree)
    let after : List Form.Entry :=
      [.eventDomain "acls", .eventType "granted", .objectType "grant", .producer ""]
    let m := (f.setAll after).draft "evt-1" ⟨1, 0⟩
    (⟨[blank]⟩ : Payload).toJson ≠ (⟨[{}]⟩ : Payload).toJson ∧
      (∀ entry ∈ after, entry.payload? = none) ∧ (f.setAll after).build "evt-1" ⟨1, 0⟩ = .ok m ∧
      m.createdAt.Representable ∧ ∃ text, m.toJson = .ok text ∧
        ∃ m', Message.ofJson "evt-2" text = .ok m' ∧
          (m'.payload.bind String.fromUTF8?).map Payload.ofJson = some (.ok p) := by
  intro blank p f after m
  have ⟨_, hi, _⟩ := payload_roundTrip ⟨[{}]⟩
  have hne : (⟨[blank]⟩ : Payload).toJson ≠ (⟨[{}]⟩ : Payload).toJson := fun h =>
    absurd ((hi _).mp h) (by simp [blank])
  have ha : ∀ entry ∈ after, entry.payload? = none := by
    simp [after, Form.Entry.payload?]
  have hb : (f.setAll after).build "evt-1" ⟨1, 0⟩ = .ok m :=
    Message.build_eq_ok_iff.mpr ⟨rfl, rfl⟩
  have hr : m.createdAt.Representable := by decide
  have ⟨_, _, _, hc⟩ := payload_roundTrip p
  obtain ⟨hw, hr'⟩ := hc Form.permissions after "evt-1" ⟨1, 0⟩ m ha hb hr
  obtain ⟨text, ht⟩ := hw.mpr nofun
  exact ⟨hne, ha, hb, hr, text, ht, hr' text "evt-2" ht⟩

end Outbox.Permission

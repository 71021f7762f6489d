import Mathlib.Data.List.Induction
import Outbox.Proofs.Permission.Notation
/-!
Permission tuples that are built entry by entry, and payloads that are built group by group. Each
slot of a tuple keeps the last text that came for it, and what is complained of is the first slot
that holds a text which may not stand there.
-/

namespace Outbox.Permission

section First

variable {α : Type} {p : α → Prop} {f : α → Except Violation Unit} {l : List α} {a : α}
  {v : Violation}

-- Of the elements of a list for which something is so, this is the first one.
def IsFirst (p : α → Prop) (l : List α) (a : α) : Prop :=
  ∃ before after, l = before ++ a :: after ∧ (∀ b ∈ before, ¬p b) ∧ p a

theorem isFirst_cons_iff {b : α} :
    IsFirst p (b :: l) a ↔ (p b ∧ a = b) ∨ (¬p b ∧ IsFirst p l a) := by
  constructor
  case mp =>
    rintro ⟨before, after, h, hb, ha⟩
    cases before
    case nil =>
      cases h
      exact .inl ⟨ha, rfl⟩
    case cons =>
      cases h
      rw [List.forall_mem_cons] at hb
      exact .inr ⟨hb.1, _, after, rfl, hb.2, ha⟩
  case mpr =>
    rintro (⟨hb, rfl⟩ | ⟨hb, before, after, rfl, hl, ha⟩)
    · exact ⟨[], l, rfl, nofun, hb⟩
    · exact ⟨b :: before, after, rfl, List.forall_mem_cons.mpr ⟨hb, hl⟩, ha⟩

theorem forM_cons {b : α} : (b :: l).forM f = (do f b; l.forM f) := rfl

theorem forM_eq_ok_iff : l.forM f = .ok () ↔ ∀ a ∈ l, f a = .ok () := by
  induction l
  case nil => exact iff_of_true rfl nofun
  case cons hi => rw [forM_cons, andThen_eq_ok_iff, hi, List.forall_mem_cons]

-- The first failure is the one that is told.
theorem forM_eq_error_iff :
    l.forM f = .error v ↔ ∃ a, IsFirst (f · ≠ .ok ()) l a ∧ f a = .error v := by
  induction l
  case nil => exact iff_of_false nofun fun ⟨_, ⟨_, _, h, _⟩, _⟩ => by simp at h
  case cons b l hi =>
    simp only [forM_cons, isFirst_cons_iff]
    cases hb : f b
    case error => simp [bind, Except.bind, hb]
    case ok =>
      change l.forM f = .error v ↔ _
      rw [hi]
      simp

-- What is handed out after a check.
theorem checked_eq_ok_iff {x : Except Violation Unit} {b : α} :
    (do x; return a) = Except.ok b ↔ a = b ∧ x = .ok () := by
  cases x <;> simp [bind, Except.bind, pure, Except.pure]

theorem checked_eq_error_iff {x : Except Violation Unit} :
    (do x; return a) = Except.error v ↔ x = .error v := by
  cases x <;> simp [bind, Except.bind, pure, Except.pure]

end First

namespace Tuple

-- The parts of a tuple, each of which is there as a whole or not at all.
inductive Part where
  | resource
  | subject
  | relation
  deriving DecidableEq, Repr

-- The texts of a tuple.
inductive Slot where
  | resourceType
  | resourceId
  | subjectType
  | subjectId
  | relationName
  deriving DecidableEq, Repr

namespace Slot

-- All slots, in the order in which they are checked.
def all : List Slot :=
  [resourceType, resourceId, subjectType, subjectId, relationName]

def part : Slot → Part
  | resourceType => .resource
  | resourceId   => .resource
  | subjectType  => .subject
  | subjectId    => .subject
  | relationName => .relation

def path : Slot → String
  | resourceType => "resource.type"
  | resourceId   => "resource.id"
  | subjectType  => "subject.type"
  | subjectId    => "subject.id"
  | relationName => "relation.name"

def allowed : Slot → Char → Bool
  | relationName => isRelationChar
  | _            => isObjectChar

-- May the text stand there?
def Accepts (slot : Slot) (text : String) : Prop :=
  text ≠ "" ∧ ∀ c ∈ text.toList, c ≠ ':' ∧ c ≠ '#' ∧ Text.isBlank c = false ∧
    (slot = relationName → c ≠ '@')

def complaint (slot : Slot) (text : String) : Violation :=
  .invalidFormat slot.path s!"'{text}' must be non-empty without ':', '#' or whitespace"

theorem mem_all (slot : Slot) : slot ∈ all := by
  cases slot <;> decide

end Slot

def Entry.slot : Entry → Slot
  | resourceType _ => .resourceType
  | resourceId _   => .resourceId
  | subjectType _  => .subjectType
  | subjectId _    => .subjectId
  | relation _     => .relationName

def Entry.text : Entry → String
  | resourceType text => text
  | resourceId text   => text
  | subjectType text  => text
  | subjectId text    => text
  | relation name     => name

-- The text in a slot, if the part is there.
def text? (t : Tuple) : Slot → Option String
  | .resourceType => t.resource.map (·.type)
  | .resourceId   => t.resource.map (·.id)
  | .subjectType  => t.subject.map (·.type)
  | .subjectId    => t.subject.map (·.id)
  | .relationName => t.relation

-- The slot holds a text that may not stand there.
def Rejects (t : Tuple) (slot : Slot) : Prop :=
  ∃ text, t.text? slot = some text ∧ ¬slot.Accepts text

-- The last text that comes for a slot.
def lastText? (slot : Slot) (entries : List Entry) : Option String :=
  (entries.filter (·.slot = slot)).getLast?.map Entry.text

-- Does an entry fill in something of the part?
def Touches (entries : List Entry) (part : Part) : Prop :=
  ∃ entry ∈ entries, entry.slot.part = part

instance {entries : List Entry} {part : Part} : Decidable (Touches entries part) :=
  inferInstanceAs (Decidable (∃ entry ∈ entries, entry.slot.part = part))

variable {t t' : Tuple} {entry entry' : Entry} {entries entries' : List Entry} {slot : Slot}
  {part : Part} {text : String} {v : Violation}

section Filling

theorem text?_set :
    (t.set entry).text? slot =
      if entry.slot = slot then some entry.text
      else if entry.slot.part = slot.part then some ((t.text? slot).getD "")
      else t.text? slot := by
  obtain ⟨resource, subject, relation⟩ := t
  cases entry <;> cases slot <;>
    first | rfl | (cases resource <;> rfl) | (cases subject <;> rfl)

theorem set_comm (h : entry.slot ≠ entry'.slot) :
    (t.set entry).set entry' = (t.set entry').set entry := by
  cases entry <;> cases entry' <;> first | rfl | exact absurd rfl h

theorem lastText?_concat :
    lastText? slot (entries ++ [entry]) =
      if entry.slot = slot then some entry.text else lastText? slot entries := by
  by_cases h : entry.slot = slot <;> simp [lastText?, h]

theorem touches_concat :
    Touches (entries ++ [entry]) part ↔ Touches entries part ∨ entry.slot.part = part := by
  simp [Touches, or_and_right, exists_or]

theorem lastText?_eq_none_iff :
    lastText? slot entries = none ↔ ∀ entry ∈ entries, entry.slot ≠ slot := by
  simp [lastText?]

-- What was filled in, was filled in somewhere.
theorem touches_iff_lastText? :
    Touches entries part ↔ ∃ slot : Slot, slot.part = part ∧ lastText? slot entries ≠ none := by
  simp only [Ne, lastText?_eq_none_iff, not_forall, not_not]
  constructor
  case mp =>
    rintro ⟨entry, he, rfl⟩
    exact ⟨entry.slot, rfl, entry, he, rfl⟩
  case mpr =>
    rintro ⟨_, rfl, entry, he, rfl⟩
    exact ⟨entry, he, rfl⟩

theorem lastText?_eq_none_of_not_touches (h : ¬Touches entries slot.part) :
    lastText? slot entries = none := by
  by_contra hl
  exact h (touches_iff_lastText?.mpr ⟨slot, rfl, hl⟩)

-- A slot holds the last text that came for it. If none came it is empty, or its part is not there.
theorem text?_foldl :
    (entries.foldl set {}).text? slot =
      if Touches entries slot.part then some ((lastText? slot entries).getD "") else none := by
  induction entries using List.reverseRecOn
  case nil =>
    rw [if_neg fun ⟨_, h, _⟩ => nomatch h]
    cases slot <;> rfl
  case append_singleton entries entry hi =>
    rw [List.foldl_append, List.foldl_cons, List.foldl_nil, text?_set, lastText?_concat]
    simp only [touches_concat, hi]
    by_cases hs : entry.slot = slot
    case pos => simp [hs]
    case neg =>
      by_cases hp : entry.slot.part = slot.part
      case pos =>
        by_cases ht : Touches entries slot.part
        case pos => simp [hs, hp, ht]
        case neg => simp [hs, hp, ht, lastText?_eq_none_of_not_touches ht]
      case neg => simp [hs, hp]

end Filling

section Order

-- A tuple is told by the texts in its slots.
theorem eq_of_text? (h : ∀ slot, t.text? slot = t'.text? slot) : t = t' := by
  have object {o o' : Option Object} (ht : o.map (·.type) = o'.map (·.type))
      (hi : o.map (·.id) = o'.map (·.id)) : o = o' := by
    rcases o with _ | ⟨type, id⟩ <;> rcases o' with _ | ⟨type', id'⟩ <;> simp_all
  obtain ⟨resource, subject, relation⟩ := t
  obtain ⟨resource', subject', relation'⟩ := t'
  have hr : resource = resource' := object (h .resourceType) (h .resourceId)
  have hs : subject = subject' := object (h .subjectType) (h .subjectId)
  have hn : relation = relation' := h .relationName
  rw [hr, hs, hn]

-- Only the last text for each slot matters, and not what comes in between.
theorem foldl_set_congr (h : ∀ slot, lastText? slot entries' = lastText? slot entries) :
    entries'.foldl set {} = entries.foldl set {} := by
  refine eq_of_text? fun slot => ?_
  have ht : Touches entries' slot.part ↔ Touches entries slot.part := by
    simp only [touches_iff_lastText?, h]
  rw [text?_foldl, text?_foldl, h]
  exact if_congr ht rfl rfl

end Order

section Checking

theorem isPart_allowed_iff : isPart slot.allowed text.toList ↔ slot.Accepts text := by
  have hc (c : Char) : slot.allowed c ↔ c ≠ ':' ∧ c ≠ '#' ∧ Text.isBlank c = false ∧
      (slot = .relationName → c ≠ '@') := by
    cases slot <;> simp [Slot.allowed, isRelationChar, isObjectChar, and_assoc]
  simp [isPart, Slot.Accepts, hc]

theorem checkPart_eq_error_iff :
    checkPart slot.allowed slot.path text = .error v ↔
      ¬slot.Accepts text ∧ v = slot.complaint text := by
  rw [← isPart_allowed_iff, checkPart]
  split
  case isTrue h => simp [h]
  case isFalse h => simp [h, Slot.complaint, eq_comm]

-- The check of a slot.
def check (t : Tuple) (slot : Slot) : Except Violation Unit :=
  ifPresent (checkPart slot.allowed slot.path) (t.text? slot)

theorem check_ne_ok_iff : t.check slot ≠ .ok () ↔ t.Rejects slot := by
  simp [check, Rejects, ifPresent_eq_ok_iff, checkPart_eq_ok_iff, isPart_allowed_iff]

theorem check_eq_error_iff :
    t.check slot = .error v ↔
      ∃ text, t.text? slot = some text ∧ ¬slot.Accepts text ∧ v = slot.complaint text := by
  rw [check]
  cases t.text? slot
  case none => simp [ifPresent]
  case some => simp [ifPresent, checkPart_eq_error_iff]

-- A tuple is checked slot by slot.
theorem validate_eq : t.validate = Slot.all.forM t.check := by
  have object {role : String} {o : Option Object} : ifPresent (Object.validate role) o = (do
      ifPresent (checkPart isObjectChar (role ++ ".type")) (o.map (·.type))
      ifPresent (checkPart isObjectChar (role ++ ".id")) (o.map (·.id))) := by
    cases o <;> rfl
  have last {x : Except Violation Unit} : (do x; pure ()) = x := bind_pure x
  rw [validate, Object.validateResource, Object.validateSubject, object, object]
  simp only [bind_assoc]
  change _ = (do
    t.check .resourceType; t.check .resourceId; t.check .subjectType; t.check .subjectId
    t.check .relationName; pure ())
  rw [last]
  rfl

theorem validate_eq_ok_iff_rejects : t.validate = .ok () ↔ ∀ slot, ¬t.Rejects slot := by
  rw [validate_eq, forM_eq_ok_iff]
  simp [← check_ne_ok_iff, Slot.mem_all]

-- The first slot that holds a bad text, with that text, makes the complaint.
theorem validate_eq_error_iff :
    t.validate = .error v ↔ ∃ slot text, IsFirst t.Rejects Slot.all slot ∧
      t.text? slot = some text ∧ v = slot.complaint text := by
  have hr : (fun slot => t.check slot ≠ .ok ()) = t.Rejects :=
    funext fun _ => propext check_ne_ok_iff
  rw [validate_eq, forM_eq_error_iff]
  simp only [hr, check_eq_error_iff]
  constructor
  case mp =>
    rintro ⟨slot, hf, text, ht, _, hv⟩
    exact ⟨slot, text, hf, ht, hv⟩
  case mpr =>
    rintro ⟨slot, text, hf, ht, hv⟩
    have ⟨_, _, _, _, text', ht', ha⟩ := hf
    cases ht.symm.trans ht'
    exact ⟨slot, hf, text, ht, ha, hv⟩

end Checking

section Building

theorem ofEntries_eq_ok_iff :
    ofEntries entries = .ok t ↔
      entries.foldl set {} = t ∧ (entries.foldl set {}).validate = .ok () :=
  checked_eq_ok_iff

theorem ofEntries_eq_error_iff :
    ofEntries entries = .error v ↔ (entries.foldl set {}).validate = .error v :=
  checked_eq_error_iff

-- A slot is fine if nothing of its part was filled in, or if its own last text may stand there.
theorem rejects_foldl_iff :
    (entries.foldl set {}).Rejects slot ↔ Touches entries slot.part ∧
      ¬∃ text, lastText? slot entries = some text ∧ slot.Accepts text := by
  rw [Rejects, text?_foldl]
  by_cases h : Touches entries slot.part
  case neg => simp [h]
  case pos =>
    have he : ¬slot.Accepts "" := fun ha => ha.1 rfl
    cases lastText? slot entries <;> simp [h, he]

theorem exists_ofEntries_iff :
    (∃ t, ofEntries entries = .ok t) ↔ ∀ part, ¬Touches entries part ∨
      ∀ slot : Slot, slot.part = part →
        ∃ text, lastText? slot entries = some text ∧ slot.Accepts text := by
  have h : (∃ t, ofEntries entries = .ok t) ↔ (entries.foldl set {}).validate = .ok () := by
    simp [ofEntries_eq_ok_iff]
  rw [h, validate_eq_ok_iff_rejects]
  simp only [rejects_foldl_iff, not_and_or, not_not]
  constructor
  case mp =>
    intro hs part
    by_cases ht : Touches entries part
    case neg => exact .inl ht
    case pos =>
      refine .inr ?_
      rintro slot rfl
      exact (hs slot).resolve_left (not_not.mpr ht)
  case mpr => exact fun hp slot => (hp slot.part).imp_right fun h => h slot rfl

end Building

end Tuple

namespace Payload

variable {groups : List (List Tuple)} {p : Payload} {v : Violation}

theorem foldl_addTuples : groups.foldl addTuples p = ⟨p.tuples ++ groups.flatten⟩ := by
  induction groups generalizing p
  case nil => simp
  case cons hi => rw [List.foldl_cons, hi, addTuples, List.flatten_cons, List.append_assoc]

theorem ofGroups_eq_ok_iff :
    ofGroups groups = .ok p ↔
      p = ⟨groups.flatten⟩ ∧ ∀ group ∈ groups, ∀ t ∈ group, t.validate = .ok () := by
  rw [ofGroups, checked_eq_ok_iff, foldl_addTuples, validate, forM_eq_ok_iff, eq_comm]
  exact and_congr_right fun _ => List.forall_mem_flatten

theorem ofGroups_eq_error_iff :
    ofGroups groups = .error v ↔
      ∃ t : Tuple, IsFirst (fun t => t.validate ≠ .ok ()) groups.flatten t ∧
        t.validate = .error v := by
  rw [ofGroups, checked_eq_error_iff, foldl_addTuples, validate, forM_eq_error_iff]
  rfl

end Payload

open Outbox.Permission.Tuple (Entry Slot ofEntries lastText? Touches)
open Outbox.Permission.Payload (ofGroups)

-- What is made of entries, and of groups of tuples.
theorem built_of_last_texts (entries : List Entry) (groups : List (List Tuple)) :
    let t := entries.foldl Tuple.set {}
    -- A slot holds the last text that came for it. It is empty if only its part was touched.
    (∀ slot, t.text? slot =
      if Touches entries slot.part then some ((lastText? slot entries).getD "") else none) ∧
    -- Entries for different slots can change places, and only the last texts matter in the end.
    (∀ (t : Tuple) (entry entry' : Entry), entry.slot ≠ entry'.slot →
      (t.set entry).set entry' = (t.set entry').set entry) ∧
    (∀ entries', (∀ slot, lastText? slot entries' = lastText? slot entries) →
      ofEntries entries' = ofEntries entries) ∧
    -- Every part that was touched needs a text in all its slots.
    ((∃ t, ofEntries entries = .ok t) ↔ ∀ part, ¬Touches entries part ∨
      ∀ slot : Slot, slot.part = part →
        ∃ text, lastText? slot entries = some text ∧ slot.Accepts text) ∧
    (∀ t', ofEntries entries = .ok t' → t' = t) ∧
    -- The first slot in which a text may not stand is told, with the text.
    (∀ v, ofEntries entries = .error v ↔ ∃ slot text, IsFirst t.Rejects Slot.all slot ∧
      t.text? slot = some text ∧ v = slot.complaint text) ∧
    -- A payload has the tuples of all groups, in order, if none of them has a defect.
    ((∃ p, ofGroups groups = .ok p) ↔ ∀ group ∈ groups, ∀ t ∈ group, t.validate = .ok ()) ∧
    (∀ p, ofGroups groups = .ok p → p = ⟨groups.flatten⟩) ∧
    -- If there are defects, the first one of the first such tuple is told.
    (∀ v, ofGroups groups = .error v ↔ ∃ (t : Tuple) (slot : Slot) (text : String),
      IsFirst (fun t : Tuple => t.validate ≠ .ok ()) groups.flatten t ∧
        IsFirst t.Rejects Slot.all slot ∧ t.text? slot = some text ∧ v = slot.complaint text) := by
  intro t
  refine ⟨fun _ => Tuple.text?_foldl, fun _ _ _ => Tuple.set_comm, fun entries' h => ?order,
    Tuple.exists_ofEntries_iff, fun t' h => (Tuple.ofEntries_eq_ok_iff.mp h).1.symm,
    fun v => Tuple.ofEntries_eq_error_iff.trans Tuple.validate_eq_error_iff, ?payload,
    fun p h => (Payload.ofGroups_eq_ok_iff.mp h).1, fun v => ?defect⟩
  case order => rw [ofEntries, ofEntries, Tuple.foldl_set_congr h]
  case payload => simp only [Payload.ofGroups_eq_ok_iff, exists_eq_left]
  case defect =>
    simp only [Payload.ofGroups_eq_error_iff, Tuple.validate_eq_error_iff, exists_and_left]

end Outbox.Permission

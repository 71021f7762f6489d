import Outbox.Permission.Tuple
import Outbox.Text.Search
/-!
Permission tuples in the notation `type:id#relation@type:id`. A part of a checked tuple has none of
the marks that are looked for behind it, so that the tuple can be told from what is written,
although `@` may stand in types and ids.
-/

namespace Outbox.Permission

variable {α : Type} {allowed : Char → Bool} {mark : Char} {s s' r r' : List Char}
  {field role name text : String} {check : α → Except Violation Unit} {o : Option α} {a : Object}
  {t t' : Tuple}

section Checks

theorem checkPart_eq_ok_iff :
    checkPart allowed field text = .ok () ↔ isPart allowed text.toList := by
  unfold checkPart
  split <;> simp_all

theorem andThen_eq_ok_iff {x y : Except Violation Unit} :
    (do x; y) = .ok () ↔ x = .ok () ∧ y = .ok () := by
  cases x <;> simp [bind, Except.bind]

theorem ifPresent_eq_ok_iff : ifPresent check o = .ok () ↔ ∀ a ∈ o, check a = .ok () := by
  cases o <;> simp [ifPresent]

-- A type and an id that may stand in a tuple.
def Object.IsProper (a : Object) : Prop :=
  isPart isObjectChar a.type.toList ∧ isPart isObjectChar a.id.toList

instance : DecidablePred Object.IsProper := fun a =>
  inferInstanceAs (Decidable (isPart isObjectChar a.type.toList ∧ isPart isObjectChar a.id.toList))

theorem Object.validate_eq_ok_iff : a.validate role = .ok () ↔ a.IsProper := by
  rw [validate, andThen_eq_ok_iff, checkPart_eq_ok_iff, checkPart_eq_ok_iff, IsProper]

theorem Tuple.validate_eq_ok_iff :
    t.validate = .ok () ↔ (∀ a ∈ t.resource, a.IsProper) ∧ (∀ a ∈ t.subject, a.IsProper) ∧
      ∀ name ∈ t.relation, isPart isRelationChar name.toList := by
  simp only [validate, andThen_eq_ok_iff, ifPresent_eq_ok_iff, Object.validateResource,
    Object.validateSubject, validateRelation, Object.validate_eq_ok_iff, checkPart_eq_ok_iff]

end Checks

-- A part ends where a mark stands that may not stand in it.
theorem eq_of_append_mark (hs : isPart allowed s) (hs' : isPart allowed s')
    (hm : allowed mark = false) (h : s ++ mark :: r = s' ++ mark :: r') : s = s' ∧ r = r' := by
  have cut {s r : List Char} (hs : isPart allowed s) :
      (s ++ mark :: r).takeWhile allowed = s ∧
        (s ++ mark :: r).dropWhile allowed = mark :: r := by
    rw [isPart, Bool.and_eq_true, List.all_eq_true] at hs
    exact Text.span_append hs.2 (by simpa using hm)
  have ht : s = s' := by rw [← (cut hs).1, h, (cut hs').1]
  have hr : mark :: r = mark :: r' := by rw [← (cut hs).2, h, (cut hs').2]
  exact ⟨ht, (List.cons.inj hr).2⟩

theorem Object.eq_of_toList {b : Object} (ht : a.type.toList = b.type.toList)
    (hi : a.id.toList = b.id.toList) : a = b := by
  cases a
  cases b
  rw [Object.mk.injEq]
  exact ⟨String.toList_inj.mp ht, String.toList_inj.mp hi⟩

-- The tuple in the notation, if it has all its parts.
def Tuple.spelling? (t : Tuple) : Option String := do
  let a ← t.resource
  let b ← t.subject
  let name ← t.relation
  return a.type ++ ":" ++ a.id ++ "#" ++ name ++ "@" ++ b.type ++ ":" ++ b.id

theorem Tuple.spelling?_eq_some_iff :
    t.spelling? = some text ↔ ∃ a b name, t = ⟨some a, some b, some name⟩ ∧
      text = a.type ++ ":" ++ a.id ++ "#" ++ name ++ "@" ++ b.type ++ ":" ++ b.id := by
  constructor
  case mp =>
    intro h
    obtain ⟨a, ha, h⟩ := Option.bind_eq_some_iff.mp h
    obtain ⟨b, hb, h⟩ := Option.bind_eq_some_iff.mp h
    obtain ⟨name, hn, h⟩ := Option.bind_eq_some_iff.mp h
    exact ⟨a, b, name, by rw [← ha, ← hb, ← hn], (Option.some.inj h).symm⟩
  case mpr =>
    rintro ⟨a, b, name, rfl, rfl⟩
    rfl

-- No text is written for two tuples without a defect.
theorem Tuple.spelling?_unambiguous (ht : t.validate = .ok ()) (ht' : t'.validate = .ok ())
    (h : t.spelling? = some text) : t'.spelling? = some text ↔ t = t' := by
  refine ⟨fun h' => ?_, fun he => he ▸ h⟩
  obtain ⟨a, b, name, rfl, hw⟩ := spelling?_eq_some_iff.mp h
  obtain ⟨a', b', name', rfl, hw'⟩ := spelling?_eq_some_iff.mp h'
  have ⟨ha, hb, hn⟩ := validate_eq_ok_iff.mp ht
  have ⟨ha', hb', hn'⟩ := validate_eq_ok_iff.mp ht'
  have he := congrArg String.toList (hw.symm.trans hw')
  have colon : ":".toList = [':'] := by decide
  have hash : "#".toList = ['#'] := by decide
  have sign : "@".toList = ['@'] := by decide
  simp only [String.toList_append, List.append_assoc, colon, hash, sign,
    List.singleton_append] at he
  -- The parts are cut off one after the other; the last id is all that is left.
  obtain ⟨hat, he⟩ := eq_of_append_mark (ha a rfl).1 (ha' a' rfl).1 (by decide) he
  obtain ⟨hai, he⟩ := eq_of_append_mark (ha a rfl).2 (ha' a' rfl).2 (by decide) he
  obtain ⟨hname, he⟩ := eq_of_append_mark (hn name rfl) (hn' name' rfl) (by decide) he
  obtain ⟨hbt, hbi⟩ := eq_of_append_mark (hb b rfl).1 (hb' b' rfl).1 (by decide) he
  rw [Object.eq_of_toList hat hai, Object.eq_of_toList hbt hbi, String.toList_inj.mp hname]

-- The sign that ends the relation also stands in all parts of the objects.
theorem Tuple.spelling?_unambiguous_signed :
    let t : Tuple := ⟨some ⟨"doc@a", "1@b"⟩, some ⟨"user@c", "ann@d"⟩, some "owner"⟩
    let text := "doc@a:1@b#owner@user@c:ann@d"
    t.validate = .ok () ∧ t.spelling? = some text ∧
      ∀ t' : Tuple, t'.validate = .ok () → t'.spelling? = some text → t = t' := by
  intro t text
  have ht : t.validate = .ok () := validate_eq_ok_iff.mpr (by decide +kernel)
  have h : t.spelling? = some text := by decide +kernel
  exact ⟨ht, h, fun t' ht' h' => (spelling?_unambiguous ht ht' h).mp h'⟩

-- In a relation the sign would be taken for the one behind it.
example :
    let t : Tuple := ⟨some ⟨"doc", "1"⟩, some ⟨"user", "ann"⟩, some "owner@staff"⟩
    let t' : Tuple := ⟨some ⟨"doc", "1"⟩, some ⟨"staff@user", "ann"⟩, some "owner"⟩
    t ≠ t' ∧ t.spelling? = t'.spelling? := by
  decide +kernel

end Outbox.Permission

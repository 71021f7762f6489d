import Outbox.Proofs.Json.Scalar
import Outbox.Json.Reading
/-!
What a record has from the members of an object. A part of the record that one field fills is what
stands under the name of the field, which comes once at most; other members leave it alone.
-/

namespace Outbox.Json

variable {σ α : Type} {fields : List (Field Tree Fault σ)} {acc result : σ}
  {name : String} {read : Tree → Except Fault α} {get : σ → α} {inside : Blank} {ms : Members}

-- The members with the names that their keys stand for.
def Members.entries : Members → List (String × Tree)
  | .member _ key _ _ value _ rest =>
    match key.decode with
    | .ok name => (name, value) :: rest.entries
    | .error _ => rest.entries
  | _ => []

-- The values that stand under a name.
def Members.named (ms : Members) (name : String) : List Tree :=
  (ms.entries.filter (·.1 = name)).map (·.2)

theorem Members.named_member {before afterKey beforeValue after : Blank} {key : Quoted}
    {value : Tree} {rest : Members} {k : String} (h : key.decode = .ok k) :
    (member before key afterKey beforeValue value after rest).named name =
      if k = name then value :: rest.named name else rest.named name := by
  by_cases hn : k = name <;> simp [named, entries, h, hn]

-- The part `get` of a record is filled by the field with this name, and by no other field.
def Fills (name : String) (read : Tree → Except Fault α) (get : σ → α)
    (field : Field Tree Fault σ) : Prop :=
  ∀ t acc result, field.read t acc = .ok result →
    if field.name = name then read t = .ok (get result) else get result = get acc

theorem Fills.own {set : α → σ → σ} (h : ∀ a acc, get (set a acc) = a) :
    Fills name read get (.defaulted name read set) := by
  intro t acc result hr
  obtain ⟨a, ha, rfl⟩ := map_eq_ok.mp hr
  exact (if_pos rfl).mpr (by rw [h, ha])

theorem Fills.other {β : Type} {name' : String} {read' : Tree → Except Fault β} {set : β → σ → σ}
    (hn : name' ≠ name) (h : ∀ b acc, get (set b acc) = get acc) :
    Fills name read get (.defaulted name' read' set) := by
  intro t acc result hr
  obtain ⟨b, _, rfl⟩ := map_eq_ok.mp hr
  exact (if_neg hn).mpr (h b acc)

-- A name that was seen does not come again.
theorem named_of_seen {seen : List String} {acc : σ} (ms : Members)
    (h : TextDialect.keyed fields seen acc ms = .ok result) (hs : name ∈ seen) :
    ms.named name = [] := by
  match ms with
  | .close | .cut _ | .unkeyed _ | .unvalued .. => rfl
  | .member _ key _ _ value _ rest =>
    rw [TextDialect.keyed] at h
    obtain ⟨k, hk, h⟩ := bind_eq_ok.mp h
    rw [Members.named_member hk]
    dsimp only at h
    split at h
    case isTrue => cases h
    case isFalse hc =>
      have hne : k ≠ name := by
        rintro rfl
        exact hc (List.contains_iff_mem.mpr hs)
      rw [if_neg hne]
      split at h
      case h_1 =>
        obtain ⟨_, _, h⟩ := bind_eq_ok.mp h
        exact named_of_seen rest h (.tail _ hs)
      case h_2 =>
        split at h
        case h_1 => cases h
        case h_2 => exact named_of_seen rest h hs

theorem get_keyed {seen : List String} {acc : σ}
    (hf : ∀ field ∈ fields, Fills name read get field)
    (hn : ∃ field ∈ fields, field.name = name) (ms : Members)
    (h : TextDialect.keyed fields seen acc ms = .ok result) :
    (ms.named name = [] ∧ get result = get acc) ∨
    (∃ t, ms.named name = [t] ∧ read t = .ok (get result)) := by
  match ms with
  | .close =>
    rw [TextDialect.keyed] at h
    split at h <;> cases h
    exact .inl ⟨rfl, rfl⟩
  | .cut _ => cases h
  | .unkeyed stray => cases stray <;> cases h
  | .unvalued key fault =>
    rw [TextDialect.keyed] at h
    obtain ⟨name, _, h⟩ := bind_eq_ok.mp h
    split at h <;> cases h
  | .member _ key _ _ value _ rest =>
    rw [TextDialect.keyed] at h
    obtain ⟨k, hk, h⟩ := bind_eq_ok.mp h
    rw [Members.named_member hk]
    dsimp only at h
    split at h
    case isTrue => cases h
    case isFalse hc =>
      split at h
      case h_1 field hfind =>
        obtain ⟨acc', hv, h⟩ := bind_eq_ok.mp h
        have hk' : field.name = k := by simpa using List.find?_some hfind
        have hfill := hf field (List.mem_of_find?_eq_some hfind) value acc acc' hv
        rw [hk'] at hfill
        by_cases he : k = name
        case pos =>
          rw [if_pos he] at hfill ⊢
          cases get_keyed hf hn rest h
          case inl hi => exact .inr ⟨value, by rw [hi.1], hi.2 ▸ hfill⟩
          case inr hi =>
            obtain ⟨t, ht, _⟩ := hi
            rw [named_of_seen rest h (he ▸ .head _)] at ht
            cases ht
        case neg =>
          rw [if_neg he] at hfill ⊢
          rw [← hfill]
          exact get_keyed hf hn rest h
      case h_2 hfind =>
        have he : k ≠ name := by
          rintro rfl
          obtain ⟨field, hm, hfn⟩ := hn
          exact absurd hfn (by simpa using List.find?_eq_none.mp hfind field hm)
        rw [if_neg he]
        split at h
        case h_1 => cases h
        case h_2 => exact get_keyed hf hn rest h

theorem get_record (hf : ∀ field ∈ fields, Fills name read get field)
    (hn : ∃ field ∈ fields, field.name = name)
    (h : TextDialect.record fields acc (.object inside ms) = .ok result) :
    (ms.named name = [] ∧ get result = get acc) ∨
    (∃ t, ms.named name = [t] ∧ read t = .ok (get result)) :=
  get_keyed hf hn ms h

end Outbox.Json

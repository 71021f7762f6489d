import Outbox.Json.Reading
import Outbox.Proofs.Json.Limits
/-!
What decoders of records accept is free of defects, and of an invariant that every field keeps, the
record that is read has it.
-/

namespace Outbox.Json

variable {σ α : Type} {Inv : σ → Prop} {field : Field Tree Fault σ}
  {fields : List (Field Tree Fault σ)} {acc result : σ} {s : String} {t : Tree}

-- What the field accepts is free of defects, and taking it keeps the invariant.
def Keeps (Inv : σ → Prop) (field : Field Tree Fault σ) : Prop :=
  ∀ t acc result, field.read t acc = .ok result →
    t.skim = none ∧ (t.IsProper → Inv acc → Inv result)

theorem Keeps.defaulted {name : String} {read : Tree → Except Fault α} {set : α → σ → σ}
    (h : ∀ t a, read t = .ok a → t.skim = none ∧ (t.IsProper → ∀ acc, Inv acc → Inv (set a acc))) :
    Keeps Inv (.defaulted name read set) := by
  intro t acc result hr
  obtain ⟨a, ha, rfl⟩ := map_eq_ok.mp hr
  have ⟨hs, hi⟩ := h t a ha
  exact ⟨hs, fun ht => hi ht acc⟩

theorem keyed_ok {seen : List String} {acc : σ} (hf : ∀ field ∈ fields, Keeps Inv field)
    (ms : Members) (h : TextDialect.keyed fields seen acc ms = .ok result) :
    ms.skim = none ∧ (ms.IsProper → Inv acc → Inv result) := by
  match ms with
  | .close =>
    rw [TextDialect.keyed] at h
    split at h <;> cases h
    exact ⟨rfl, fun _ hi => hi⟩
  | .cut fault => cases h
  | .unkeyed stray => cases stray <;> cases h
  | .unvalued key fault =>
    rw [TextDialect.keyed] at h
    obtain ⟨name, _, h⟩ := bind_eq_ok.mp h
    split at h <;> cases h
  | .member _ key _ _ value _ rest =>
    rw [TextDialect.keyed] at h
    obtain ⟨name, hk, h⟩ := bind_eq_ok.mp h
    have hkf := Quoted.fault_of_decode hk
    dsimp only at h
    split at h
    case isTrue => cases h
    case isFalse =>
      split at h
      case h_1 field hfind =>
        obtain ⟨acc', hv, h⟩ := bind_eq_ok.mp h
        obtain ⟨hvs, hvi⟩ := hf field (List.mem_of_find?_eq_some hfind) value acc acc' hv
        obtain ⟨hrs, hri⟩ := keyed_ok hf rest h
        refine ⟨Members.skim_member_eq_none_iff.mpr ⟨hkf, hvs, hrs⟩, ?_⟩
        rintro ⟨_, _, _, _, hvp, _, hrp⟩ hi
        exact hri hrp (hvi hvp hi)
      case h_2 =>
        split at h
        case h_1 => cases h
        case h_2 hvs =>
          obtain ⟨hrs, hri⟩ := keyed_ok hf rest h
          refine ⟨Members.skim_member_eq_none_iff.mpr ⟨hkf, hvs, hrs⟩, ?_⟩
          rintro ⟨_, _, _, _, _, _, hrp⟩
          exact hri hrp

theorem positional_ok (hf : ∀ field ∈ fields, Keeps Inv field) (is : Items)
    (h : TextDialect.positional acc fields is = .ok result) :
    is.skim = none ∧ (is.IsProper → Inv acc → Inv result) := by
  induction fields generalizing acc is
  case nil =>
    cases is <;> cases h
    case close => exact ⟨rfl, fun _ hi => hi⟩
  case cons field fields hrec =>
    rw [List.forall_mem_cons] at hf
    cases is
    case close =>
      rw [TextDialect.positional] at h
      split at h <;> cases h
      exact ⟨rfl, fun _ hi => hi⟩
    case item before value after rest =>
      rw [TextDialect.positional] at h
      obtain ⟨acc', hv, h⟩ := bind_eq_ok.mp h
      obtain ⟨hvs, hvi⟩ := hf.1 value acc acc' hv
      obtain ⟨hrs, hri⟩ := hrec hf.2 rest h
      refine ⟨Items.skim_item_eq_none_iff.mpr ⟨hvs, hrs⟩, ?_⟩
      rintro ⟨_, hvp, _, hrp⟩ hi
      exact hri hrp (hvi hvp hi)
    all_goals cases h

theorem record_ok (hf : ∀ field ∈ fields, Keeps Inv field)
    (h : TextDialect.record fields acc t = .ok result) :
    t.skim = none ∧ (t.IsProper → Inv acc → Inv result) := by
  cases t
  case array inside items =>
    have ⟨hs, hi⟩ := positional_ok hf items h
    exact ⟨hs, fun ht => hi ht.2.2⟩
  case object inside members =>
    have ⟨hs, hi⟩ := keyed_ok hf members h
    exact ⟨hs, fun ht => hi ht.2.2⟩
  all_goals cases h

theorem skim_of_text (h : textDialect.text t = .ok s) : t.skim = none := by
  cases t
  case text q => exact Quoted.fault_of_decode h
  all_goals cases h

theorem skim_of_optional {read : Tree → Except Fault α} {o : Option α}
    (hr : ∀ t a, read t = .ok a → t.skim = none) (h : textDialect.optional read t = .ok o) :
    t.skim = none := by
  change TextDialect.optional read t = .ok o at h
  unfold TextDialect.optional at h
  split at h
  case h_1 => rfl
  case h_2 =>
    obtain ⟨a, ha, _⟩ := map_eq_ok.mp h
    exact hr t a ha

end Outbox.Json

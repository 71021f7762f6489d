import Outbox.Message.Json
import Outbox.Proofs.Json.Decoding
import Outbox.Proofs.Json.Record
/-!
Raw JSON in messages: bytes that are the text of a value go into a record as the tree of that value,
and come out of it without the blanks around it. A null comes out as nothing.
-/

namespace Outbox.Message

open Json

variable {bytes : ByteArray} {s : String} {t : Tree}

-- Bytes that are a JSON text, blanks around it included. Neither depth nor size of numbers counts.
def IsJson (bytes : ByteArray) : Prop :=
  ∃ s : String, bytes = s.toUTF8 ∧ IsText s.toList

-- What is kept of JSON that goes through a record.
def kept (bytes : ByteArray) : Option ByteArray := do
  let s ← String.fromUTF8? bytes
  if unpadded s.toList = "null".toList then none
  else some (String.ofList (unpadded s.toList)).toUTF8

-- What a reader makes of a tree: the bytes as which it is written, but nothing of a null.
def bytesOf : Tree → Option ByteArray
  | .null => none
  | t     => some t.render.toUTF8

theorem fromUTF8?_eq_some_iff : String.fromUTF8? bytes = some s ↔ bytes = s.toUTF8 := by
  constructor
  case mp =>
    intro h
    simp only [String.fromUTF8?] at h
    split at h <;> cases h
    rfl
  case mpr =>
    rintro rfl
    simp only [String.fromUTF8?, String.toUTF8_eq_toByteArray, s.isValidUTF8, dif_pos]
    rfl

theorem bytesOf_eq_some_iff : bytesOf t = some bytes ↔ t ≠ .null ∧ bytes = t.render.toUTF8 := by
  cases t <;> simp [bytesOf, eq_comm]

theorem rawOfTree_eq (ht : t.IsProper) : rawOfTree t = .ok (bytesOf t) := by
  cases t
  case null => rfl
  all_goals simp only [rawOfTree, ht.skim_eq, bytesOf]

theorem embed_eq_ok_iff_parseTree :
    embed bytes = .ok t ↔ ∃ s : String, bytes = s.toUTF8 ∧ parseTree s.toList = .ok t := by
  simp only [← fromUTF8?_eq_some_iff, embed]
  cases String.fromUTF8? bytes
  case none => simp
  case some s => cases hp : parseTree s.toList <;> simp [hp]

theorem embed_eq_ok_iff :
    embed bytes = .ok t ↔ ∃ b r, AreBlank b ∧ t.IsProper ∧ AreBlank r ∧
      bytes = (String.ofList (b ++ (t.source ++ r))).toUTF8 := by
  simp only [embed_eq_ok_iff_parseTree, parseTree_eq_ok_iff]
  constructor
  case mp =>
    rintro ⟨s, rfl, b, r, hb, ht, hr, hs⟩
    exact ⟨b, r, hb, ht, hr, by rw [← hs, String.ofList_toList]⟩
  case mpr =>
    rintro ⟨b, r, hb, ht, hr, rfl⟩
    exact ⟨_, rfl, b, r, hb, ht, hr, String.toList_ofList⟩

theorem exists_embed_iff : (∃ t, embed bytes = .ok t) ↔ IsJson bytes := by
  simp only [embed_eq_ok_iff_parseTree, IsJson, ← exists_parseTree_iff]
  exact ⟨fun ⟨t, s, hs, ht⟩ => ⟨s, hs, t, ht⟩, fun ⟨s, hs, t, ht⟩ => ⟨t, s, hs, ht⟩⟩

theorem isProper_of_embed (h : embed bytes = .ok t) : t.IsProper := by
  obtain ⟨_, _, _, ht, _⟩ := embed_eq_ok_iff.mp h
  exact ht

theorem kept_eq (h : embed bytes = .ok t) : kept bytes = bytesOf t := by
  obtain ⟨b, r, hb, ht, hr, hs⟩ := embed_eq_ok_iff.mp h
  have hn : t.source = "null".toList ↔ t = .null :=
    ⟨fun he => source_inj (u := .null) ht trivial he, fun he => he ▸ rfl⟩
  rw [kept, fromUTF8?_eq_some_iff.mpr hs, Option.bind_eq_bind, Option.bind_some,
    String.toList_ofList, unpadded_source hb ht hr]
  by_cases he : t = .null
  case pos => rw [if_pos (hn.mpr he), he, bytesOf]
  case neg => rw [if_neg (he ∘ hn.mp), (bytesOf_eq_some_iff (t := t)).mpr ⟨he, rfl⟩, Tree.render]

theorem embed_render (ht : t.IsProper) : embed t.render.toUTF8 = .ok t :=
  embed_eq_ok_iff.mpr ⟨[], [], .nil, ht, .nil, by simp [Tree.render]⟩

-- What was taken out of a record goes in again as it was.
theorem embed_bytesOf (ht : t.IsProper) (h : bytes ∈ bytesOf t) : embed bytes = .ok t := by
  rw [(bytesOf_eq_some_iff.mp h).2, embed_render ht]

section Reading

variable {m : Message} {freshId text : String}

-- JSON that stands in a record: the text of a value, with nothing around it.
def IsRaw (bytes : ByteArray) : Prop :=
  ∃ t : Tree, t.IsProper ∧ bytes = t.render.toUTF8

def HoldsRaw (m : Message) : Prop :=
  (∀ bytes ∈ m.payload, IsRaw bytes) ∧ ∀ bytes ∈ m.metadata, IsRaw bytes

theorem rawOfTree_eq_ok {o : Option ByteArray} (h : rawOfTree t = .ok o) :
    t.skim = none ∧ (t.IsProper → ∀ bytes ∈ o, IsRaw bytes) := by
  have hs : t.skim = none := by
    unfold rawOfTree at h
    split at h
    case h_1 => rfl
    case h_2 => split at h <;> [assumption; cases h]
  refine ⟨hs, fun ht bytes hb => ⟨t, ht, ?_⟩⟩
  rw [rawOfTree_eq ht] at h
  cases h
  exact (bytesOf_eq_some_iff.mp hb).2

theorem keeps_holdsRaw : ∀ field ∈ fields textDialect rawOfTree, Keeps HoldsRaw field := by
  -- a field of another kind leaves the raw JSON alone
  have other {α : Type} {read : Tree → Except Fault α} {set : α → Message → Message} {name : String}
      (hr : ∀ t a, read t = .ok a → t.skim = none)
      (hs : ∀ a m, (set a m).payload = m.payload ∧ (set a m).metadata = m.metadata) :
      Keeps HoldsRaw (.defaulted name read set) := by
    refine Keeps.defaulted fun t a h => ⟨hr t a h, fun _ m hm => ?_⟩
    rw [HoldsRaw, (hs a m).1, (hs a m).2]
    exact hm
  have text (t : Tree) (s : String) : textDialect.text t = .ok s → t.skim = none := skim_of_text
  have optional (t : Tree) (o : Option String) :
      textDialect.optional textDialect.text t = .ok o → t.skim = none := skim_of_optional text
  have time (t : Tree) (time : Time.Timestamp)
      (h : Time.Timestamp.read? textDialect t = .ok time) : t.skim = none := by
    obtain ⟨_, ht, _⟩ := bind_eq_ok.mp h
    exact skim_of_text ht
  have payload :
      Keeps HoldsRaw (.defaulted "payload" rawOfTree fun o m => { m with payload := o }) :=
    Keeps.defaulted fun t o h =>
      ⟨(rawOfTree_eq_ok h).1, fun ht m hm => ⟨(rawOfTree_eq_ok h).2 ht, hm.2⟩⟩
  have metadata :
      Keeps HoldsRaw (.defaulted "metadata" rawOfTree fun o m => { m with metadata := o }) :=
    Keeps.defaulted fun t o h =>
      ⟨(rawOfTree_eq_ok h).1, fun ht m hm => ⟨hm.1, (rawOfTree_eq_ok h).2 ht⟩⟩
  simp only [fields, List.forall_mem_cons]
  exact ⟨other text fun _ _ => ⟨rfl, rfl⟩, other text fun _ _ => ⟨rfl, rfl⟩,
    other text fun _ _ => ⟨rfl, rfl⟩, other text fun _ _ => ⟨rfl, rfl⟩,
    other text fun _ _ => ⟨rfl, rfl⟩, other optional fun _ _ => ⟨rfl, rfl⟩,
    other optional fun _ _ => ⟨rfl, rfl⟩, payload, metadata, other time fun _ _ => ⟨rfl, rfl⟩,
    nofun⟩

-- Whatever is read holds its payload and its metadata as they stand in the record.
theorem holdsRaw_of_ofJson (h : ofJson freshId text = .ok m) : m.HoldsRaw := by
  have hd (t : Tree) (m : Message)
      (h : textDialect.record (fields textDialect rawOfTree) (blank freshId) t = .ok m) :
      t.skim = none ∧ (t.IsProper → m.HoldsRaw) := by
    have ⟨hs, hi⟩ := record_ok keeps_holdsRaw h
    exact ⟨hs, fun ht => hi ht ⟨nofun, nofun⟩⟩
  obtain ⟨_, t, _, _, ht, _, _, h⟩ := parse_eq_ok (fun t m ht => (hd t m ht).1) h
  exact (hd t m h).2 ht

end Reading

end Outbox.Message

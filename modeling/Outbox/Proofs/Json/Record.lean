import Outbox.Json.Reading
import Outbox.Proofs.Json.Language
/-!
Records and lists as they are written. A record reads back as what its members give, one after the
other, whichever of its fields are left out; and what is written is free of defects.
-/

namespace Outbox.Json

variable {α : Type} {s : String} {t : Tree}

section Proper

theorem isProper_ofChar (c : Char) : (Piece.ofChar c).IsProper := by
  unfold Piece.ofChar
  split
  case h_8 hq hb _ _ _ _ _ =>
    split
    case isTrue h =>
      have hd : ∀ n : Fin 16, Text.Hex.isDigit (Text.Hex.digit n) := by decide
      have hh := hd ⟨c.toNat / 16, by omega⟩
      have hl := hd ⟨c.toNat % 16, by omega⟩
      have hz : Text.Hex.isDigit '0' := by decide
      simpa [Piece.IsProper, hz] using ⟨hh, hl⟩
    case isFalse h => exact ⟨Nat.le_of_not_lt h, hq, hb⟩
  all_goals simp [Piece.IsProper, escapeLetters]

theorem Quoted.isProper_ofString (s : String) : (Quoted.ofString s).IsProper where
  closed := rfl
  pieces := by
    simp only [ofString, List.mem_map]
    rintro _ ⟨c, _, rfl⟩
    exact isProper_ofChar c

theorem Tree.isProper_ofString (s : String) : (Tree.ofString s).IsProper :=
  Quoted.isProper_ofString s

theorem text_ofString (s : String) : textDialect.text (Tree.ofString s) = .ok s :=
  decode_ofString s

theorem Members.isProper_ofList {kts : List (String × Tree)} (h : ∀ kt ∈ kts, kt.2.IsProper) :
    (Members.ofList kts).IsProper := by
  induction kts
  case nil => trivial
  case cons kt kts hi =>
    rw [List.forall_mem_cons] at h
    exact ⟨nofun, Quoted.isProper_ofString _, nofun, nofun, h.1, nofun, hi h.2⟩

theorem Tree.isProper_record {kts : List (String × Tree)} (h : ∀ kt ∈ kts, kt.2.IsProper) :
    (Tree.record kts).IsProper :=
  ⟨nofun, .inl rfl, Members.isProper_ofList h⟩

theorem Items.isProper_ofList {ts : List Tree} (h : ∀ t ∈ ts, t.IsProper) :
    (Items.ofList ts).IsProper := by
  induction ts
  case nil => trivial
  case cons t ts hi =>
    rw [List.forall_mem_cons] at h
    exact ⟨nofun, h.1, nofun, hi h.2⟩

-- What is written for a value that may be absent.
theorem Tree.isProper_of_mem_map {write : α → Tree} (h : ∀ a, (write a).IsProper) (o : Option α) :
    ∀ t ∈ o.map write, t.IsProper := by
  rintro t ht
  obtain ⟨a, _, rfl⟩ := Option.map_eq_some_iff.mp ht
  exact h a

theorem Tree.isProper_list {ts : List Tree} (h : ∀ t ∈ ts, t.IsProper) : (Tree.list ts).IsProper :=
  ⟨nofun, .inl rfl, Items.isProper_ofList h⟩

end Proper

section Reading

variable {read : Tree → Except Fault α} {write : α → Tree}

theorem list_map (h : ∀ a, read (write a) = .ok a) (as : List α) :
    textDialect.list read (Tree.list (as.map write)) = .ok as := by
  change TextDialect.items read (Items.ofList (as.map write)) = .ok as
  induction as
  case nil => rfl
  case cons a as hi =>
    simp only [List.map_cons, Items.ofList, TextDialect.items, h, hi, bind, Except.bind, pure,
      Except.pure]

-- What is written when there is a value reads back as that value, unless it is taken for none.
theorem optional_map (h : ∀ a, read (write a) = .ok a) (hn : ∀ a, write a ≠ .null) (o : Option α) :
    ∀ t ∈ o.map write, textDialect.optional read t = .ok o := by
  rintro t ht
  obtain ⟨a, rfl, rfl⟩ := Option.map_eq_some_iff.mp ht
  change TextDialect.optional read (write a) = .ok (some a)
  rw [TextDialect.optional, h]
  · rfl
  · exact hn a

end Reading

-- A field of a record with the tree that is written for it, if there is one.
structure Written (σ : Type) where
  field : Field Tree Fault σ
  value : Option Tree

namespace Written

variable {σ : Type} {ws : List (Written σ)} {w : Written σ} {acc acc' result : σ}
  {seen : List String}

def member? (w : Written σ) : Option (String × Tree) :=
  w.value.map (w.field.name, ·)

-- Takes what is written into the record.
def take (w : Written σ) (acc : σ) : Except Fault σ :=
  match w.value with
  | some t => w.field.read t acc
  | none   => .ok acc

def takeAll (ws : List (Written σ)) (acc : σ) : Except Fault σ :=
  ws.foldlM (fun acc w => w.take acc) acc

theorem isProper_record (h : ∀ w ∈ ws, ∀ t ∈ w.value, t.IsProper) :
    (Tree.record (ws.filterMap member?)).IsProper := by
  refine Tree.isProper_record fun kt hkt => ?_
  obtain ⟨w, hw, he⟩ := List.mem_filterMap.mp hkt
  obtain ⟨t, ht, rfl⟩ := Option.map_eq_some_iff.mp he
  exact h w hw t ht

theorem takeAll_cons (hw : w.take acc = .ok acc') :
    takeAll (w :: ws) acc = takeAll ws acc' := by
  simp [takeAll, hw, bind, Except.bind]

theorem takeAll_cons_eq_ok :
    takeAll (w :: ws) acc = .ok result ↔
      ∃ acc', w.take acc = .ok acc' ∧ takeAll ws acc' = .ok result :=
  bind_eq_ok

theorem takeAll_some {name : String} {read : Tree → Except Fault α} {set : α → σ → σ} {a : α}
    {t : Tree} (h : read t = .ok a) :
    takeAll (⟨.defaulted name read set, some t⟩ :: ws) acc = takeAll ws (set a acc) :=
  takeAll_cons (by simp [take, Field.defaulted, h, Except.map])

theorem takeAll_mandatory {name : String} {read : Tree → Except Fault α} {set : α → σ → σ} {a : α}
    {t : Tree} (h : read t = .ok a) :
    takeAll (⟨.mandatory name read set, some t⟩ :: ws) acc = takeAll ws (set a acc) :=
  takeAll_cons (by simp [take, Field.mandatory, h, Except.map])

-- What is not written has its value by default.
theorem takeAll_defaulted {name : String} {read : Tree → Except Fault α} {set : α → σ → σ} {a : α}
    {value : Option Tree} (h : ∀ t ∈ value, read t = .ok a) (hn : value = none → set a acc = acc) :
    takeAll (⟨.defaulted name read set, value⟩ :: ws) acc = takeAll ws (set a acc) := by
  cases value
  case none => rw [takeAll_cons rfl, hn rfl]
  case some t => exact takeAll_some (h t rfl)

theorem find?_field (hn : (ws.map (·.field.name)).Nodup) (hw : w ∈ ws) :
    (ws.map (·.field)).find? (·.name == w.field.name) = some w.field := by
  induction ws
  case nil => cases hw
  case cons v ws hi =>
    rw [List.map_cons, List.nodup_cons] at hn
    cases hw
    case head => simp
    case tail hw =>
      have hne : v.field.name ≠ w.field.name := fun he => hn.1 (he ▸ List.mem_map_of_mem hw)
      simp [hne, hi hn.2 hw]

-- The members are met in the order in which they are written.
theorem keyed_members {fields : List (Field Tree Fault σ)}
    (hf : ∀ w ∈ ws, fields.find? (·.name == w.field.name) = some w.field)
    (hn : (ws.map (·.field.name)).Nodup) (hs : ∀ w ∈ ws, w.field.name ∉ seen)
    (hr : ∀ f ∈ fields, f.required → f.name ∈ seen ∨
      ∃ w ∈ ws, w.field.name = f.name ∧ w.value.isSome)
    (h : takeAll ws acc = .ok result) :
    TextDialect.keyed fields seen acc (Members.ofList (ws.filterMap member?)) = .ok result := by
  induction ws generalizing seen acc
  case nil =>
    have hr : fields.any (fun f => f.required && !seen.contains f.name) = false := by
      refine List.any_eq_false.mpr fun f hf => ?_
      have := hr f hf
      simp_all
    cases h
    simp only [List.filterMap_nil, Members.ofList, TextDialect.keyed, hr, Bool.false_eq_true,
      if_false]
  case cons w ws hi =>
    rw [List.forall_mem_cons] at hf hs
    rw [List.map_cons, List.nodup_cons] at hn
    cases hv : w.value
    case none =>
      have hw : w.take acc = .ok acc := by rw [take, hv]
      rw [takeAll_cons hw] at h
      rw [List.filterMap_cons_none (by simp [member?, hv])]
      refine hi hf.2 hn.2 hs.2 (fun f hf hq => (hr f hf hq).imp_right ?_) h
      rintro ⟨v, hm, he, hv'⟩
      cases hm
      case head => simp [hv] at hv'
      case tail hm => exact ⟨v, hm, he, hv'⟩
    case some t =>
      rw [List.filterMap_cons_some (by simp [member?, hv]; rfl)]
      obtain ⟨acc', hw, h⟩ := takeAll_cons_eq_ok.mp h
      rw [take, hv] at hw
      simp only [Members.ofList, TextDialect.keyed, decode_ofString, bind, Except.bind,
        List.contains_iff_mem, hs.1, if_false, hf.1, hw]
      refine hi hf.2 hn.2 (fun v hm => ?_) (fun f hf hq => ?_) h
      case refine_1 =>
        rw [List.mem_cons, not_or]
        exact ⟨fun he => hn.1 (he ▸ List.mem_map_of_mem hm), hs.2 v hm⟩
      case refine_2 =>
        rcases hr f hf hq with hm | ⟨v, hm, he, hv'⟩
        · exact .inl (.tail _ hm)
        · cases hm
          case head => exact .inl (he ▸ .head _)
          case tail hm => exact .inr ⟨v, hm, he, hv'⟩

-- A record reads back as what its members give.
theorem record_eq (hn : (ws.map (·.field.name)).Nodup)
    (hv : ∀ w ∈ ws, w.field.required → w.value.isSome) (h : takeAll ws acc = .ok result) :
    TextDialect.record (ws.map (·.field)) acc (Tree.record (ws.filterMap member?)) =
      .ok result := by
  refine keyed_members (fun w hw => find?_field hn hw) hn nofun (fun f hf hq => .inr ?_) h
  obtain ⟨w, hw, rfl⟩ := List.mem_map.mp hf
  exact ⟨w, hw, rfl, hv w hw hq⟩

end Written

end Outbox.Json

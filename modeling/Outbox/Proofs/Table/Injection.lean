import Outbox.Proofs.Table.Language
import Outbox.Table.Injection
/-!
Names of tables that look like an injection. Of all that is looked for in a suspicious text, in any
case, nothing can stand in a name but the number prefixes `0x` and `0b`; and these only with an
upper-case letter, for a name is searched for them as it stands.
-/

namespace Outbox

namespace Text

variable {s p : List Char}

theorem infix_lowercase_iff (hs : ∀ c ∈ s, c.toNat < 128) :
    p <:+: lowercase s ↔ ∃ q, q <:+: s ∧ q.map Char.toLower = p := by
  rw [lowercase_ascii hs, List.infix_map_iff]
  simp only [eq_comm]

-- A digit and a letter that occur in lower case stand there with a letter of either case.
theorem infix_lowercase_pair_iff {digit lower upper : Char} (hs : ∀ c ∈ s, c.toNat < 128)
    (hd : ∀ c : Char, c.toNat < 128 → (c.toLower = digit ↔ c = digit))
    (hl : ∀ c : Char, c.toNat < 128 → (c.toLower = lower ↔ c = lower ∨ c = upper)) :
    [digit, lower] <:+: lowercase s ↔ [digit, lower] <:+: s ∨ [digit, upper] <:+: s := by
  have hp {q : List Char} (hq : q <:+: s) :
      q.map Char.toLower = [digit, lower] ↔ q = [digit, lower] ∨ q = [digit, upper] := by
    have hc : ∀ c ∈ q, c.toNat < 128 := fun c hc => hs c (hq.subset hc)
    match q with
    | [] | [_] | _ :: _ :: _ :: _ => simp
    | [a, b] =>
      have ha := hd a (hc a (by simp))
      have hb := hl b (hc b (by simp))
      simp [ha, hb, and_or_left]
  rw [infix_lowercase_iff hs]
  constructor
  case mp =>
    rintro ⟨q, hq, he⟩
    rcases (hp hq).mp he with rfl | rfl
    · exact .inl hq
    · exact .inr hq
  case mpr =>
    rintro (hq | hq)
    · exact ⟨_, hq, (hp hq).mpr (.inl rfl)⟩
    · exact ⟨_, hq, (hp hq).mpr (.inr rfl)⟩

end Text

namespace Table

open Text

variable {c : Char} {s : List Char} {pattern text : String} {name : Name}

theorem resemblesInjection_iff :
    resemblesInjection s ↔ (∃ p ∈ injectionPatterns ++ commentMarks, p.toList <:+: lowercase s) ∨
      s.count singleQuote % 2 ≠ 0 ∨ s.count doubleQuote % 2 ≠ 0 := by
  simp only [resemblesInjection, Bool.or_eq_true, List.any_eq_true, occurs_iff, bne_iff_ne,
    List.mem_append, or_and_right, exists_or]
  simp only [or_assoc, or_comm, or_left_comm]

theorem isNameChar_toLower (h : isNameChar c) : isNameChar c.toLower :=
  forall_ascii (P := fun c => isNameChar c → isNameChar c.toLower) (by decide)
    (toNat_lt_of_isNameChar h) h

-- Nearly all that is suspicious either has a character that names are not written with or contains
-- a denied keyword.
theorem injectionPatterns_cases : ∀ p ∈ injectionPatterns ++ commentMarks,
    p ∈ ["0x", "0b"] ∨ (p.toList.any fun c => !isNameChar c) ∨
      ∃ k ∈ deniedKeywords, occurs k.toList p.toList := by
  decide +kernel

namespace Name

theorem inLanguage (name : Name) : InLanguage name.text.toList :=
  nameRefusal?_eq_none_iff.mp name.safe

theorem toNat_lt_of_mem (h : c ∈ name.text.toList) : c.toNat < 128 :=
  toNat_lt_of_isNameChar (isNameChar_of_mem h)

theorem isNameChar_of_mem_lowercase (h : c ∈ lowercase name.text.toList) : isNameChar c := by
  rw [lowercase_ascii fun _ => toNat_lt_of_mem] at h
  obtain ⟨d, hd, rfl⟩ := List.mem_map.mp h
  exact isNameChar_toLower (isNameChar_of_mem hd)

theorem mem_of_infix_lowercase (hp : pattern ∈ injectionPatterns ++ commentMarks)
    (h : pattern.toList <:+: lowercase name.text.toList) : pattern ∈ ["0x", "0b"] := by
  obtain hp | hn | ⟨k, hk, ho⟩ := injectionPatterns_cases pattern hp
  · exact hp
  · obtain ⟨c, hc, hn⟩ := List.any_eq_true.mp hn
    have hc : isNameChar c := isNameChar_of_mem_lowercase (h.subset hc)
    simp [hc] at hn
  · exact absurd ((occurs_iff.mp ho).trans h) (name.inLanguage.keywords k hk)

theorem count_eq_zero (hc : isNameChar c = false) : name.text.toList.count c = 0 :=
  List.count_eq_zero.mpr fun h => by simp [isNameChar_of_mem h] at hc

theorem resemblesInjection_iff_number :
    resemblesInjection name.text.toList ↔
      ['0', 'x'] <:+: lowercase name.text.toList ∨ ['0', 'b'] <:+: lowercase name.text.toList := by
  rw [resemblesInjection_iff, count_eq_zero (by decide), count_eq_zero (by decide)]
  constructor
  case mp =>
    rintro (⟨p, hp, h⟩ | h | h)
    · have hp := mem_of_infix_lowercase hp h
      simp only [List.mem_cons, List.not_mem_nil, or_false] at hp
      rcases hp with rfl | rfl
      · exact .inl h
      · exact .inr h
    · exact absurd rfl h
    · exact absurd rfl h
  case mpr =>
    rintro (h | h)
    · exact .inl ⟨"0x", by decide, h⟩
    · exact .inl ⟨"0b", by decide, h⟩

theorem exists_parse_of_trimmed {t : String} (ht : trim text.toList = t.toList)
    (hn : nameRefusal? t.toList = none) : ∃ name, parse text = .ok name ∧ name.text = t := by
  refine ⟨⟨t, hn⟩, parse_eq_ok_iff.mpr ⟨ht ▸ hn, ?_⟩, rfl⟩
  rw [ht, String.ofList_toList]

-- A name resembles an injection if a number prefix stands in it with an upper-case letter. Whatever
-- else is suspicious is refused, in any case.
theorem parse_resembles_injection_iff (h : parse text = .ok name) :
    name.text.toList = trim text.toList ∧
    (resemblesInjection name.text.toList ↔
      "0X".toList <:+: name.text.toList ∨ "0B".toList <:+: name.text.toList) := by
  have hs : ∀ c ∈ name.text.toList, c.toNat < 128 := fun _ => toNat_lt_of_mem
  have zero (c : Char) (hc : c.toNat < 128) : c.toLower = '0' ↔ c = '0' :=
    forall_ascii (P := fun c => c.toLower = '0' ↔ c = '0') (by decide) hc
  have hx := infix_lowercase_pair_iff hs zero fun c hc =>
    forall_ascii (P := fun c => c.toLower = 'x' ↔ c = 'x' ∨ c = 'X') (by decide) hc
  have hb := infix_lowercase_pair_iff hs zero fun c hc =>
    forall_ascii (P := fun c => c.toLower = 'b' ↔ c = 'b' ∨ c = 'B') (by decide) hc
  have hnx : ¬['0', 'x'] <:+: name.text.toList := name.inLanguage.numbers "0x" (by decide)
  have hnb : ¬['0', 'b'] <:+: name.text.toList := name.inLanguage.numbers "0b" (by decide)
  refine ⟨by rw [(parse_eq_ok_iff.mp h).2, String.toList_ofList], ?_⟩
  rw [resemblesInjection_iff_number, hx, hb, or_iff_right hnx, or_iff_right hnb]
  rfl

theorem parse_resembles_injection_iff_trimmed :
    ∃ name, parse " Outbox.Events_V2 " = .ok name ∧ name.text = "Outbox.Events_V2" ∧
      ¬resemblesInjection name.text.toList := by
  obtain ⟨name, h, ht⟩ : ∃ name, parse " Outbox.Events_V2 " = .ok name ∧
      name.text = "Outbox.Events_V2" :=
    exists_parse_of_trimmed (by decide +kernel) (by decide +kernel)
  refine ⟨name, h, ht, ?_⟩
  rw [(parse_resembles_injection_iff h).2, ht, ← occurs_iff, ← occurs_iff]
  decide +kernel

-- Such a name is accepted, although the same name in lower case is refused for its prefix.
theorem parse_accepts_capital_number :
    (∃ name, parse "events0X1F" = .ok name ∧ name.text = "events0X1F" ∧
      resemblesInjection name.text.toList) ∧
    ∀ name, parse "events0x1f" ≠ .ok name := by
  obtain ⟨name, h, ht⟩ : ∃ name, parse "events0X1F" = .ok name ∧ name.text = "events0X1F" :=
    exists_parse_of_trimmed (by decide +kernel) (by decide +kernel)
  refine ⟨⟨name, h, ht, ?_⟩, fun name h => ?_⟩
  case refine_1 =>
    rw [ht]
    decide +kernel
  case refine_2 =>
    have hn : nameRefusal? (trim "events0x1f".toList) ≠ none := by decide +kernel
    exact hn (parse_eq_ok_iff.mp h).1

end Name

end Table

end Outbox

import Outbox.Proofs.Table.Injection
/-!
What is taken for an injection. A pattern is found in any case and in any surroundings, although the
whole text is put into lower case before it is searched; and no text is suspicious for anything but
a pattern, the start of a comment or a quote without its partner.
-/

namespace Outbox.Table

open Text

variable {s v : List Char} {p : String}

-- Patterns are written in ASCII, and the starts of comments with signs alone.
theorem all_toNat_lt_pattern : ∀ p ∈ injectionPatterns ++ commentMarks,
    p.toList.all fun c => c.toNat < 128 := by
  decide +kernel

theorem map_toLower_pattern : ∀ p ∈ injectionPatterns ++ commentMarks,
    p.toList.map Char.toLower = p.toList := by
  decide +kernel

theorem all_isSign_commentMark : ∀ p ∈ commentMarks, p.toList.all isSign := by
  decide +kernel

theorem toNat_toLower_lt_iff (c : Char) : c.toLower.toNat < 128 ↔ c.toNat < 128 :=
  of_toLower (P := fun d c => d.toNat < 128 ↔ c.toNat < 128) c (by decide) .rfl

-- A text that is a pattern in some case is ASCII as well.
theorem toNat_lt_of_map_toLower (hp : p ∈ injectionPatterns ++ commentMarks)
    (hv : v.map Char.toLower = p.toList) : ∀ c ∈ v, c.toNat < 128 := by
  intro c hc
  have hl : c.toLower ∈ p.toList := hv ▸ List.mem_map_of_mem hc
  have ha : decide (c.toLower.toNat < 128) := List.all_eq_true.mp (all_toNat_lt_pattern p hp) _ hl
  exact (toNat_toLower_lt_iff c).mp (of_decide_eq_true ha)

theorem resemblesInjection_of_pattern (hp : p ∈ injectionPatterns ++ commentMarks)
    (hv : v.map Char.toLower = p.toList) (before behind : List Char) :
    resemblesInjection (before ++ v ++ behind) := by
  refine resemblesInjection_iff.mpr (.inl ⟨p, hp, ?_⟩)
  rw [← hv]
  exact infix_lowercase_append before behind (toNat_lt_of_map_toLower hp hv)

theorem exists_infix_lowercase_iff :
    (∃ p ∈ injectionPatterns ++ commentMarks, p.toList <:+: lowercase s) ↔
      (∃ p ∈ injectionPatterns, p.toList <:+: lowercase s) ∨
        ∃ p ∈ commentMarks, p.toList <:+: s := by
  simp only [List.mem_append, or_and_right, exists_or]
  refine or_congr_right (exists_congr fun p => and_congr_right fun hp => ?_)
  exact infix_lowercase_signs_iff (List.all_eq_true.mp (all_isSign_commentMark p hp))

-- Neither case nor surroundings hide a pattern, and what is found has one of three reasons.
theorem resemblesInjection_in_any_case :
    (∀ p ∈ injectionPatterns ++ commentMarks, ∀ v : List Char,
      v.map Char.toLower = p.toList.map Char.toLower →
        ∀ before behind, resemblesInjection (before ++ v ++ behind)) ∧
    ∀ s, resemblesInjection s ↔
      (∃ p ∈ injectionPatterns, p.toList <:+: lowercase s) ∨
      (∃ p ∈ ["--", "/*"], p.toList <:+: s) ∨
      s.count '\x27' % 2 = 1 ∨ s.count '\x22' % 2 = 1 := by
  refine ⟨fun p hp v hv => ?_, fun s => ?_⟩
  case refine_1 => exact resemblesInjection_of_pattern hp (hv.trans (map_toLower_pattern p hp))
  case refine_2 =>
    rw [resemblesInjection_iff, exists_infix_lowercase_iff, or_assoc, Nat.mod_two_ne_zero,
      Nat.mod_two_ne_zero]
    rfl

-- A capital sigma in front looks at what follows it, and the dotted I becomes longer.
theorem resemblesInjection_in_any_case_among_greek :
    resemblesInjection "ΟΔΟΣuNiOn SeLeCtİΣ".toList :=
  resemblesInjection_in_any_case.1 "union select" (by decide) "uNiOn SeLeCt".toList (by decide)
    "ΟΔΟΣ".toList "İΣ".toList

end Outbox.Table

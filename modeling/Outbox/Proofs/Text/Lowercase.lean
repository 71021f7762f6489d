import Outbox.Text.Lowercase
/-!
What lower case does to a text around its ASCII characters. Letters can be put into lower case in
advance, and an ASCII text within another one goes its own way: what stands around it has no
influence on it, not even where a capital sigma looks for its neighbours. Of the ASCII characters
that are no letters nothing is lost and none is added.
-/

namespace Outbox.Text

variable {c d : Char} {before rest s s' t p v : List Char}

theorem forall_ascii {P : Char → Prop} (h : ∀ n : Fin 128, P (Char.ofNat n)) (hc : c.toNat < 128) :
    P c := by
  have := h ⟨c.toNat, hc⟩
  rwa [Char.ofNat_toNat] at this

theorem toNat_of_isAlpha (h : c.isAlpha) :
    65 ≤ c.toNat ∧ c.toNat ≤ 90 ∨ 97 ≤ c.toNat ∧ c.toNat ≤ 122 := by
  delta Char.isAlpha Char.isUpper Char.isLower at h
  simp only [Bool.or_eq_true, Bool.and_eq_true, decide_eq_true_eq, UInt32.le_iff_toNat_le] at h
  exact h

theorem toNat_lt_of_isAlphanum (h : c.isAlphanum) : c.toNat < 128 := by
  delta Char.isAlphanum at h
  rw [Bool.or_eq_true] at h
  cases h
  case inl h =>
    have := toNat_of_isAlpha h
    omega
  case inr h =>
    have : c.toNat ≤ '9'.toNat := (Char.isDigit_iff_toNat.mp h).2
    exact Nat.lt_of_le_of_lt this (by decide)

theorem toLower_of_not_ascii (h : ¬c.toNat < 128) : c.toLower = c := by
  have hz : ¬(c.val ≥ 'A'.val ∧ c.val ≤ 'Z'.val) := by
    rintro ⟨-, hz⟩
    have : c.toNat ≤ 'Z'.toNat := hz
    have : 'Z'.toNat = 90 := rfl
    omega
  delta Char.toLower
  exact dif_neg hz

-- What holds of all ASCII characters holds of all characters, if it is about lower case.
theorem of_toLower {P : Char → Char → Prop} (c : Char)
    (h : ∀ n : Fin 128, P (Char.ofNat n).toLower (Char.ofNat n)) (hr : P c c) : P c.toLower c := by
  by_cases hc : c.toNat < 128
  case pos => exact forall_ascii (P := fun c => P c.toLower c) h hc
  case neg => rwa [toLower_of_not_ascii hc]

theorem lowerChar_toLower (c : Char) : lowerChar c.toLower = lowerChar c :=
  of_toLower (P := fun d c => lowerChar d = lowerChar c) c (by decide) rfl

theorem isCased_toLower (c : Char) : isCased c.toLower = isCased c :=
  of_toLower (P := fun d c => isCased d = isCased c) c (by decide +kernel) rfl

-- The runs of characters that do not count keep clear of the ASCII letters.
theorem caseIgnorableChars_cases : ∀ r ∈ caseIgnorableChars,
    r.last < 65 ∨ 90 < r.first ∧ r.last < 97 ∨ 122 < r.first := by
  decide +kernel

theorem isCaseIgnorable_letter (h : c.isAlpha) : isCaseIgnorable c = false := by
  have hc := toNat_of_isAlpha h
  refine List.any_eq_false.mpr fun r hr hn => ?_
  have hr := caseIgnorableChars_cases r hr
  simp only [Run.contains, Bool.and_eq_true, decide_eq_true_eq] at hn
  omega

theorem isCaseIgnorable_toLower (c : Char) : isCaseIgnorable c.toLower = isCaseIgnorable c := by
  have hl : c.toLower.isAlpha = c.isAlpha :=
    of_toLower (P := fun d c => d.isAlpha = c.isAlpha) c (by decide) rfl
  by_cases h : c.isAlpha
  case pos => rw [isCaseIgnorable_letter h, isCaseIgnorable_letter (hl ▸ h)]
  case neg =>
    have hc : c.toLower = c :=
      of_toLower (P := fun d c => ¬c.isAlpha → d = c) c (by decide) (fun _ => rfl) h
    rw [hc]

theorem toLower_eq_capitalSigma_iff (c : Char) : c.toLower = capitalSigma ↔ c = capitalSigma :=
  of_toLower (P := fun d c => d = capitalSigma ↔ c = capitalSigma) c (by decide) .rfl

theorem startsCased_map_toLower (s : List Char) :
    startsCased (s.map Char.toLower) = startsCased s := by
  have h : isCaseIgnorable ∘ Char.toLower = isCaseIgnorable := funext isCaseIgnorable_toLower
  rw [startsCased, List.dropWhile_map, h, startsCased]
  cases s.dropWhile isCaseIgnorable
  case nil => rfl
  case cons c _ => exact isCased_toLower c

theorem lowercaseAfter_map_toLower (before s : List Char) :
    lowercaseAfter (before.map Char.toLower) (s.map Char.toLower) = lowercaseAfter before s := by
  induction s generalizing before
  case nil => rfl
  case cons c rest hi =>
    have hi := hi (c :: before)
    rw [List.map_cons] at hi
    simp only [List.map_cons, lowercaseAfter, hi, toLower_eq_capitalSigma_iff, lowerChar_toLower,
      startsCased_map_toLower]

theorem lowercase_map_toLower (s : List Char) : lowercase (s.map Char.toLower) = lowercase s :=
  lowercaseAfter_map_toLower [] s

-- The case of ASCII letters does not show in lower case.
theorem lowercase_congr (h : s.map Char.toLower = s'.map Char.toLower) :
    lowercase s = lowercase s' := by
  rw [← lowercase_map_toLower s, h, lowercase_map_toLower]

-- What a character becomes that stands between two texts.
def lowerAt (before : List Char) (c : Char) (rest : List Char) : List Char :=
  if c = capitalSigma then
    [if startsCased before && !startsCased rest then finalSigma else smallSigma]
  else lowerChar c

theorem lowercaseAfter_cons (before : List Char) (c : Char) (rest : List Char) :
    lowercaseAfter before (c :: rest) =
      lowerAt before c rest ++ lowercaseAfter (c :: before) rest :=
  rfl

theorem lowerAt_ascii (h : c.toNat < 128) : lowerAt before c rest = [c.toLower] := by
  have hs : c ≠ capitalSigma := by
    rintro rfl
    exact absurd h (by decide)
  rw [lowerAt, if_neg hs, lowerChar_ascii h]

theorem lowerChar_ne_nil (c : Char) : lowerChar c ≠ [] := by
  unfold lowerChar
  split
  case isTrue => simp
  case isFalse =>
    split
    case isTrue => simp
    case isFalse => split <;> simp

theorem lowerAt_ne_nil (before : List Char) (c : Char) (rest : List Char) :
    lowerAt before c rest ≠ [] := by
  unfold lowerAt
  split
  case isTrue => simp
  case isFalse => exact lowerChar_ne_nil c

theorem lowercaseAfter_suffix (before s t : List Char) :
    lowercaseAfter (s.reverse ++ before) t <:+ lowercaseAfter before (s ++ t) := by
  induction s generalizing before
  case nil => exact List.suffix_refl _
  case cons c s hi =>
    have h := hi (c :: before)
    rw [List.reverse_cons, List.append_assoc]
    exact h.trans (List.suffix_append _ _)

theorem lowercaseAfter_append_ascii (before t : List Char) (hv : ∀ c ∈ v, c.toNat < 128) :
    lowercaseAfter before (v ++ t) =
      v.map Char.toLower ++ lowercaseAfter (v.reverse ++ before) t := by
  induction v generalizing before
  case nil => rfl
  case cons c v hi =>
    have ⟨hc, hv⟩ := List.forall_mem_cons.mp hv
    rw [List.cons_append, lowercaseAfter_cons, lowerAt_ascii hc, hi (c :: before) hv,
      List.reverse_cons, List.append_assoc]
    rfl

-- An ASCII text is still there in the lower case of what it stands in, in lower case itself.
theorem infix_lowercase_append (s t : List Char) (hv : ∀ c ∈ v, c.toNat < 128) :
    v.map Char.toLower <:+: lowercase (s ++ v ++ t) := by
  have h : lowercaseAfter (s.reverse ++ []) (v ++ t) <:+ lowercase (s ++ v ++ t) := by
    rw [List.append_assoc]
    exact lowercaseAfter_suffix [] s (v ++ t)
  rw [lowercaseAfter_append_ascii _ _ hv] at h
  exact (List.prefix_append _ _).isInfix.trans h.isInfix

-- An ASCII character that is no letter.
def isSign (c : Char) : Bool :=
  c.toNat < 128 && !c.isAlpha

theorem toNat_lt_of_isSign (h : isSign c) : c.toNat < 128 := by
  simp only [isSign, Bool.and_eq_true, decide_eq_true_eq] at h
  exact h.1

theorem toLower_of_isSign (h : isSign c) : c.toLower = c :=
  forall_ascii (P := fun c => isSign c → c.toLower = c) (by decide) (toNat_lt_of_isSign h) h

-- Beyond ASCII only the sign of the kelvin is shifted to an ASCII character, which is a letter.
theorem lowercaseShifts_cases : ∀ s ∈ lowercaseShifts,
    (s.target = 'k'.toNat ∧ s.source.last = s.source.first) ∨
      128 ≤ s.target ∧ (s.target + (s.source.last - s.source.first) < 0xD800 ∨
        0xDFFF < s.target ∧ s.target + (s.source.last - s.source.first) < 0x110000) := by
  decide +kernel

theorem isSign_ofNat {n : Nat} (hn : 128 ≤ n) (hv : n.isValidChar) :
    isSign (Char.ofNat n) = false := by
  have h : (Char.ofNat n).toNat = n := by
    rw [Char.ofNat, dif_pos hv]
    rfl
  simp [isSign, h, Nat.not_lt.mpr hn]

theorem isSign_shifted {n : Nat} {shift : Shift} (hs : shift ∈ lowercaseShifts)
    (hn : shift.source.contains n) : isSign (Char.ofNat (shift.apply n)) = false := by
  simp only [Run.contains, Bool.and_eq_true, decide_eq_true_eq] at hn
  obtain ⟨ht, hl⟩ | ⟨ht, hv⟩ := lowercaseShifts_cases shift hs
  · have hk : shift.apply n = 'k'.toNat := by
      rw [Shift.apply, ht]
      omega
    rw [hk]
    decide
  · refine isSign_ofNat ?_ ?_
    case refine_1 => exact Nat.le_add_right_of_le ht
    case refine_2 =>
      unfold Shift.apply Nat.isValidChar
      omega

theorem eq_of_mem_lowerChar (hd : isSign d) (h : d ∈ lowerChar c) : c = d := by
  have hn : ∀ c : Char, c.toNat < 128 → isSign c.toLower → c.toLower = c := fun c hc =>
    forall_ascii (P := fun c => isSign c.toLower → c.toLower = c) (by decide) hc
  unfold lowerChar at h
  split at h
  case isTrue hc =>
    obtain rfl := List.mem_singleton.mp h
    exact (hn c hc hd).symm
  case isFalse hc =>
    split at h
    case isTrue =>
      simp only [List.mem_cons, List.not_mem_nil, or_false] at h
      rcases h with rfl | rfl <;> exact absurd hd (by decide)
    case isFalse =>
      split at h
      case h_1 shift hs =>
        obtain rfl := List.mem_singleton.mp h
        have hc : shift.source.contains c.toNat :=
          List.find?_some (p := fun s : Shift => s.source.contains c.toNat) hs
        exact absurd hd (by simp [isSign_shifted (List.mem_of_find?_eq_some hs) hc])
      case h_2 => exact (List.mem_singleton.mp h).symm

theorem eq_of_mem_lowerAt (hd : isSign d) (h : d ∈ lowerAt before c rest) :
    c = d := by
  unfold lowerAt at h
  split at h
  case isTrue =>
    obtain rfl := List.mem_singleton.mp h
    split at hd <;> exact absurd hd (by decide)
  case isFalse => exact eq_of_mem_lowerChar hd h

theorem lowerAt_of_isSign (h : isSign c) : lowerAt before c rest = [c] := by
  rw [lowerAt_ascii (toNat_lt_of_isSign h), toLower_of_isSign h]

-- A sign at the start of the lower case is the first character of the text.
theorem prefix_of_prefix_lowercaseAfter (hp : ∀ d ∈ p, isSign d)
    (h : p <+: lowercaseAfter before s) : p <+: s := by
  induction s generalizing before p
  case nil => exact h
  case cons c rest hi =>
    cases p
    case nil => exact List.nil_prefix
    case cons d p =>
      have ⟨hd, hp⟩ := List.forall_mem_cons.mp hp
      rw [lowercaseAfter_cons] at h
      have hc : c = d := by
        obtain ⟨x, y, hx⟩ := List.exists_cons_of_ne_nil (lowerAt_ne_nil before c rest)
        rw [hx, List.cons_append, List.cons_prefix_cons] at h
        have hm : x ∈ lowerAt before c rest := hx ▸ List.mem_cons_self
        exact eq_of_mem_lowerAt hd (h.1 ▸ hm)
      rw [hc, lowerAt_of_isSign hd, List.singleton_append, List.cons_prefix_cons] at h
      exact List.cons_prefix_cons.mpr ⟨hc.symm, hi hp h.2⟩

theorem infix_of_infix_append (hs : ∀ d ∈ p, d ∉ s) (h : p <:+: s ++ t) : p <:+: t := by
  have hn {q : List Char} (hq : q ⊆ p) (h : q ⊆ s) : q = [] :=
    List.eq_nil_iff_forall_not_mem.mpr fun d hd => hs d (hq hd) (h hd)
  obtain h | h | ⟨p₁, p₂, rfl, h₁, h₂⟩ := List.infix_append_iff.mp h
  · exact hn (List.Subset.refl p) h.subset ▸ List.nil_infix
  · exact h
  · have h₁ : p₁ = [] := hn (List.subset_append_left p₁ p₂) h₁.subset
    subst h₁
    exact h₂.isInfix

theorem infix_of_infix_lowercaseAfter (hp : ∀ d ∈ p, isSign d)
    (h : p <:+: lowercaseAfter before s) : p <:+: s := by
  induction s generalizing before
  case nil => exact h
  case cons c rest hi =>
    by_cases hc : isSign c
    case pos =>
      have he : lowercaseAfter before (c :: rest) = c :: lowercaseAfter (c :: before) rest := by
        rw [lowercaseAfter_cons, lowerAt_of_isSign hc, List.singleton_append]
      rcases List.infix_cons_iff.mp (he ▸ h) with h | h
      · exact (prefix_of_prefix_lowercaseAfter hp (he ▸ h)).isInfix
      · exact List.infix_cons (hi h)
    case neg =>
      have hn : ∀ d ∈ p, d ∉ lowerAt before c rest := fun d hd h =>
        hc (eq_of_mem_lowerAt (hp d hd) h ▸ hp d hd)
      exact List.infix_cons (hi (infix_of_infix_append hn h))

-- Signs in a row stand in the lower case if and only if they stand in the text.
theorem infix_lowercase_signs_iff (hp : ∀ d ∈ p, isSign d) : p <:+: lowercase s ↔ p <:+: s := by
  constructor
  case mp => exact infix_of_infix_lowercaseAfter hp
  case mpr =>
    rintro ⟨a, b, rfl⟩
    have h := infix_lowercase_append a b fun d hd => toNat_lt_of_isSign (hp d hd)
    rwa [List.map_congr_left fun d hd => toLower_of_isSign (hp d hd), List.map_id'] at h

end Outbox.Text

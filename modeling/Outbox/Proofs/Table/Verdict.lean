import Outbox.Proofs.Table.Language
/-!
What the verdict on a name does not depend on. Blanks around a text do not count, and the case of
its letters only counts where a number may begin. Names that are allowed are compared without regard
to either.
-/

namespace Outbox

namespace Text

variable {c : Char} {s t before behind : List Char}

-- The text `t` is `s` with blanks around it.
def IsPadded (s t : List Char) : Prop :=
  ∃ before behind, (∀ c ∈ before, isBlank c) ∧ (∀ c ∈ behind, isBlank c) ∧ t = before ++ s ++ behind

theorem dropWhile_append_of_blank (h : ∀ c ∈ behind, isBlank c) :
    ∃ behind', (∀ c ∈ behind', isBlank c) ∧
      (s ++ behind).dropWhile isBlank = s.dropWhile isBlank ++ behind' := by
  rw [List.dropWhile_append]
  split
  case isTrue he =>
    rw [List.isEmpty_iff.mp he]
    exact ⟨_, fun c hc => h c (List.dropWhile_suffix isBlank |>.subset hc), rfl⟩
  case isFalse => exact ⟨behind, h, rfl⟩

theorem isPadded_refl (s : List Char) : IsPadded s s :=
  ⟨[], [], List.forall_mem_nil _, List.forall_mem_nil _, (List.append_nil s).symm⟩

theorem isPadded_cons (hc : isBlank c) (s : List Char) : IsPadded s (c :: s) :=
  ⟨[c], [], List.forall_mem_singleton.mpr hc, List.forall_mem_nil _,
    (List.append_nil (c :: s)).symm⟩

theorem trim_of_isPadded (h : IsPadded s t) : trim t = trim s := by
  obtain ⟨before, behind, hb, ha, rfl⟩ := h
  obtain ⟨behind', ha, he⟩ := dropWhile_append_of_blank (s := s) ha
  have hr : ∀ c ∈ behind'.reverse, isBlank c := fun c hc => ha c (List.mem_reverse.mp hc)
  rw [trim, List.append_assoc, List.dropWhile_append_of_pos hb, he, List.reverse_append,
    List.dropWhile_append_of_pos hr, trim]

theorem trim_of_forall (h : ∀ c ∈ s, isBlank c = false) : trim s = s := by
  have hn {t : List Char} (h : ∀ c ∈ t, isBlank c = false) : t.dropWhile isBlank = t := by
    cases t
    case nil => rfl
    case cons c t => rw [List.dropWhile_cons_of_neg (by simp [h])]
  rw [trim, hn h, hn fun c hc => h c (List.mem_reverse.mp hc), List.reverse_reverse]

theorem trim_isInfix (s : List Char) : trim s <:+: s := by
  have h : (trim s).reverse <:+ (s.dropWhile isBlank).reverse := by
    rw [trim, List.reverse_reverse]
    exact List.dropWhile_suffix _
  exact (List.reverse_suffix.mp h).isInfix.trans (List.dropWhile_suffix _).isInfix

theorem isBlank_toLower (c : Char) : isBlank c.toLower = isBlank c :=
  of_toLower (P := fun d c => isBlank d = isBlank c) c (by decide) rfl

theorem trim_map_toLower (s : List Char) :
    trim (s.map Char.toLower) = (trim s).map Char.toLower := by
  have h : isBlank ∘ Char.toLower = isBlank := funext isBlank_toLower
  simp only [trim, List.dropWhile_map, h, ← List.map_reverse]

theorem splitAt_map_toLower (s : List Char) :
    splitAt '.' (s.map Char.toLower) = (splitAt '.' s).map (List.map Char.toLower) := by
  induction s
  case nil => rfl
  case cons c s hi =>
    have hc : c.toLower = '.' ↔ c = '.' :=
      of_toLower (P := fun d c => d = '.' ↔ c = '.') c (by decide) .rfl
    simp only [List.map_cons, splitAt, hi, hc]
    split
    case isTrue => rfl
    case isFalse => cases splitAt '.' s <;> rfl

end Text

namespace Table

open Text

variable {s t : List Char} {text text' : String} {allowed allowed' : List String} {a a' : String}
  {name : Name} {r : Refusal}

theorem isWord_map_toLower (w : List Char) : isWord (w.map Char.toLower) = isWord w := by
  have ha (c : Char) : c.toLower.isAlpha = c.isAlpha :=
    of_toLower (P := fun d c => d.isAlpha = c.isAlpha) c (by decide) rfl
  have hw : isWordChar ∘ Char.toLower = isWordChar := funext fun c =>
    of_toLower (P := fun d c => isWordChar d = isWordChar c) c (by decide) rfl
  cases w
  case nil => rfl
  case cons c w => simp only [List.map_cons, isWord, ha, List.all_map, hw]

theorem isDotted_map_toLower (s : List Char) : isDotted (s.map Char.toLower) = isDotted s := by
  rw [isDotted, splitAt_map_toLower, List.all_map, isDotted]
  exact congrArg (splitAt '.' s).all (funext isWord_map_toLower)

-- Everything that is asked of a name is asked in any case, but for the prefixes of numbers.
theorem InLanguage.of_map_toLower (h : InLanguage s) (hc : t.map Char.toLower = s.map Char.toLower)
    (hn : ∀ q ∈ ["0x", "0b"], ¬q.toList <:+: t.map Char.toLower) : InLanguage t := by
  have hl : t.length = s.length := by
    simpa only [List.length_map] using congrArg List.length hc
  have hd : isDotted t = isDotted s := by
    rw [← isDotted_map_toLower t, hc, isDotted_map_toLower]
  have hq : ∀ q ∈ ["0x", "0b"], q.toList.map Char.toLower = q.toList := by decide
  exact {
    length_pos   := hl ▸ h.length_pos
    length_le    := hl ▸ h.length_le
    segments     := isDotted_iff.mp (hd ▸ isDotted_iff.mpr h.segments)
    numbers q hm := fun hi => hn q hm (hq q hm ▸ hi.map Char.toLower)
    keywords     := lowercase_congr hc ▸ h.keywords
    catalogs     := lowercase_congr hc ▸ h.catalogs }

-- The same text, apart from the case of ASCII letters and from blanks around it.
def Alike (a a' : String) : Prop :=
  ∃ s s', IsPadded s a.toList ∧ IsPadded s' a'.toList ∧ s.map Char.toLower = s'.map Char.toLower

theorem Alike.symm (h : Alike a a') : Alike a' a := by
  obtain ⟨s, s', hs, hs', h⟩ := h
  exact ⟨s', s, hs', hs, h.symm⟩

theorem lowercase_trim_of_alike (h : Alike a a') :
    lowercase (trim a.toList) = lowercase (trim a'.toList) := by
  obtain ⟨s, s', hs, hs', h⟩ := h
  refine lowercase_congr ?_
  rw [trim_of_isPadded hs, trim_of_isPadded hs', ← trim_map_toLower, h, trim_map_toLower]

namespace Name

theorem parse_of_text (name : Name) : parse name.text = .ok name := by
  have ht : trim name.text.toList = name.text.toList := trim_of_forall fun c hc => by
    cases isNameChar_iff.mp (isNameChar_of_mem hc)
    case inl h => exact isBlank_letter h
    case inr h => rcases h with rfl | rfl <;> decide
  exact parse_eq_ok_iff.mpr ⟨by rw [ht, name.safe], by rw [ht, String.ofList_toList]⟩

theorem parse_of_trim (h : trim text'.toList = trim text.toList) : parse text' = parse text := by
  unfold parse
  rw [h]

theorem parseAllowed_eq_ok_iff :
    parseAllowed text allowed = .ok name ↔ parse text = .ok name ∧ name.listed allowed := by
  cases hp : parse text
  case error => simp [parseAllowed, hp, bind, Except.bind]
  case ok name' =>
    by_cases hl : name'.listed allowed
    case pos =>
      simp only [parseAllowed, hp, bind, Except.bind, hl, if_true, pure, Except.pure,
        Except.ok.injEq]
      exact ⟨fun h => ⟨h, h ▸ hl⟩, And.left⟩
    case neg =>
      simp only [parseAllowed, hp, bind, Except.bind, hl, throw, throwThe, MonadExceptOf.throw]
      refine ⟨fun h => by simp at h, fun h => ?_⟩
      cases h.1
      exact absurd h.2 hl

theorem parseAllowed_of_error (h : parse text = .error r) :
    parseAllowed text allowed = .error r := by
  rw [parseAllowed, h]
  rfl

theorem eq_notAllowed_of_parseAllowed (h : parse text = .ok name)
    (hr : parseAllowed text allowed = .error r) : r = .notAllowed name.text := by
  rw [parseAllowed, h] at hr
  simp only [bind, Except.bind] at hr
  split at hr <;> cases hr
  rfl

theorem listed_iff :
    name.listed allowed ↔
      ∃ a ∈ allowed, lowercase (trim a.toList) = lowercase name.text.toList := by
  simp [listed]

theorem listed_of_alike (h : ∀ a ∈ allowed, ∃ a' ∈ allowed', Alike a a')
    (hl : name.listed allowed) : name.listed allowed' := by
  obtain ⟨a, ha, hl⟩ := listed_iff.mp hl
  obtain ⟨a', ha', h⟩ := h a ha
  exact listed_iff.mpr ⟨a', ha', (lowercase_trim_of_alike h).symm.trans hl⟩

-- Verdicts on a text, with a list of allowed names and without.
theorem verdict_up_to_case_and_blanks (text : String) (allowed : List String) :
    -- A name that is accepted is accepted again, as it is.
    (∀ name, parse text = .ok name → parse name.text = .ok name) ∧
    -- Blanks around the text do not count.
    (∀ text', IsPadded text.toList text'.toList →
      parse text' = parse text ∧ parseAllowed text' allowed = parseAllowed text allowed) ∧
    -- The case of ASCII letters does not count, if no number begins in the text in any case.
    (∀ text', text'.toList.map Char.toLower = text.toList.map Char.toLower →
      (∀ q ∈ ["0x", "0b"], ¬q.toList <:+: text.toList.map Char.toLower) →
      ((∃ name, parse text' = .ok name) ↔ ∃ name, parse text = .ok name)) ∧
    -- The list lets through what is a name and is in it, apart from case and blanks.
    (∀ name, parseAllowed text allowed = .ok name ↔ parse text = .ok name ∧
      ∃ a ∈ allowed, lowercase (trim a.toList) = lowercase name.text.toList) ∧
    -- What is no name is refused as it is without a list, and a name for not being allowed.
    (∀ r, parse text = .error r → parseAllowed text allowed = .error r) ∧
    (∀ name r, parse text = .ok name → parseAllowed text allowed = .error r →
      r = .notAllowed name.text) ∧
    -- With more names in the list, no less is accepted.
    (∀ allowed' name, allowed ⊆ allowed' → parseAllowed text allowed = .ok name →
      parseAllowed text allowed' = .ok name) ∧
    -- The members of the list can be put in another case and blanks around them.
    (∀ allowed', (∀ a ∈ allowed, ∃ a' ∈ allowed', Alike a a') →
      (∀ a' ∈ allowed', ∃ a ∈ allowed, Alike a' a) →
      parseAllowed text allowed' = parseAllowed text allowed) := by
  refine ⟨fun name _ => parse_of_text name, fun text' h => ?padded,
    fun text' hc hn => ?cased, fun name => ?allowed, fun r => parseAllowed_of_error,
    fun name r => eq_notAllowed_of_parseAllowed, fun allowed' name hs h => ?more,
    fun allowed' h h' => ?members⟩
  case padded =>
    have hp := parse_of_trim (trim_of_isPadded h)
    exact ⟨hp, by rw [parseAllowed, hp, parseAllowed]⟩
  case cased =>
    have ht : (trim text'.toList).map Char.toLower = (trim text.toList).map Char.toLower := by
      rw [← trim_map_toLower, hc, trim_map_toLower]
    have hn : ∀ q ∈ ["0x", "0b"], ¬q.toList <:+: (trim text.toList).map Char.toLower :=
      fun q hq h => hn q hq (h.trans ((trim_isInfix text.toList).map Char.toLower))
    rw [exists_parse_iff, exists_parse_iff]
    exact ⟨fun h => h.of_map_toLower ht.symm hn, fun h => h.of_map_toLower ht (ht ▸ hn)⟩
  case allowed => rw [parseAllowed_eq_ok_iff, listed_iff]
  case more =>
    have ⟨hp, hl⟩ := parseAllowed_eq_ok_iff.mp h
    have ⟨a, ha, hl⟩ := listed_iff.mp hl
    exact parseAllowed_eq_ok_iff.mpr ⟨hp, listed_iff.mpr ⟨a, hs ha, hl⟩⟩
  case members =>
    have hl : (listed · allowed') = (listed · allowed) := funext fun name =>
      Bool.eq_iff_iff.mpr ⟨listed_of_alike h', listed_of_alike h⟩
    simp only [parseAllowed, fun name => congrFun hl name]

theorem verdict_up_to_case_and_blanks_schema :
    ∃ name, parse "Outbox.Events" = .ok name ∧ parse "\u3000Outbox.Events" = .ok name ∧
      (∃ name', parse "OUTBOX.events" = .ok name') ∧
      parseAllowed "Outbox.Events" ["outbox.events"] = .ok name ∧
      parseAllowed "Outbox.Events" [" outbox.EVENTS"] = .ok name := by
  let name : Name := ⟨"Outbox.Events", by decide +kernel⟩
  have h : parse "Outbox.Events" = .ok name := parse_of_text name
  have ⟨_, hp, hc, ha, _, _, _, hm⟩ :=
    verdict_up_to_case_and_blanks "Outbox.Events" ["outbox.events"]
  have hl : parseAllowed "Outbox.Events" ["outbox.events"] = .ok name :=
    (ha name).mpr ⟨h, _, .head _, by decide +kernel⟩
  have hi : IsPadded "Outbox.Events".toList "\u3000Outbox.Events".toList :=
    isPadded_cons (c := '\u3000') (by decide) _
  have hk : Alike "outbox.events" " outbox.EVENTS" :=
    ⟨_, "outbox.EVENTS".toList, isPadded_refl _, isPadded_cons (c := ' ') (by decide) _, by decide⟩
  refine ⟨name, h, (hp _ hi).1.trans h, ?_, hl, (hm _ ?_ ?_).trans hl⟩
  case refine_1 =>
    refine (hc "OUTBOX.events" (by decide) ?_).mpr ⟨name, h⟩
    simp only [← occurs_iff]
    decide +kernel
  case refine_2 => exact List.forall_mem_singleton.mpr ⟨_, .head _, hk⟩
  case refine_3 => exact List.forall_mem_singleton.mpr ⟨_, .head _, hk.symm⟩

end Name

end Table

end Outbox

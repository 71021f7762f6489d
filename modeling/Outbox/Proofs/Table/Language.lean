import Outbox.Proofs.Text.Lowercase
import Outbox.Table.Name
/-!
The language of table names: what a text must look like to be accepted, and that nothing else is
asked of it. In words with points between them most of what is looked for cannot occur, and other
parts of it are looked for twice.
-/

namespace Outbox

namespace Text

variable {sep c : Char} {s : List Char}

theorem splitAt_eq_splitOn : splitAt sep s = s.splitOn sep := by
  induction s
  case nil => rfl
  case cons c s hi =>
    rw [List.splitOn_eq_splitOnP, List.splitOnP_cons_eq_if_modifyHead, splitAt, hi,
      List.splitOn_eq_splitOnP]
    cases h : s.splitOnP (· == sep)
    case nil => exact absurd h (List.splitOnP_ne_nil _ _)
    case cons => by_cases hc : c = sep <;> simp [hc]

-- Cutting a text takes nothing away but separators.
theorem eq_or_mem_of_mem (sep : Char) (h : c ∈ s) :
    c = sep ∨ ∃ piece ∈ splitAt sep s, c ∈ piece := by
  induction s
  case nil => cases h
  case cons d s hi =>
    unfold splitAt
    by_cases hd : d = sep
    case pos =>
      cases h
      case head => exact .inl hd
      case tail h => simpa [hd] using hi h
    case neg =>
      cases hs : splitAt sep s
      case nil => exact absurd (splitAt_eq_splitOn ▸ hs) (List.splitOnP_ne_nil _ _)
      case cons piece pieces =>
        rw [if_neg hd]
        cases h
        case head => exact .inr ⟨c :: piece, .head _, .head _⟩
        case tail h =>
          rw [hs] at hi
          cases hi h
          case inl h => exact .inl h
          case inr h =>
            simp only [List.mem_cons, exists_eq_or_imp] at h ⊢
            exact .inr (h.imp_left .inr)

-- A text in lower case that occurs in an ASCII text also occurs in the lower case of it.
theorem infix_lowercase {p : List Char} (hs : ∀ c ∈ s, c.toNat < 128)
    (hp : p.map Char.toLower = p) (h : p <:+: s) : p <:+: lowercase s := by
  rw [lowercase_ascii hs, ← hp]
  exact h.map Char.toLower

end Text

namespace Table

open Text

variable {c : Char} {s w : List Char} {texts : List String}

-- A letter, followed by letters, digits and underscores, all of them ASCII.
def IsSegment (w : List Char) : Prop :=
  ∃ c rest, w = c :: rest ∧ c.isAlpha ∧ ∀ d ∈ rest, d.isAlphanum ∨ d = '_'

theorem isWord_iff : isWord w ↔ IsSegment w := by
  cases w
  case nil => simp [isWord, IsSegment]
  case cons c rest =>
    simp only [isWord, isWordChar, Bool.and_eq_true, List.all_eq_true, Bool.or_eq_true, beq_iff_eq]
    constructor
    case mp => exact fun h => ⟨c, rest, rfl, h⟩
    case mpr =>
      intro ⟨_, _, he, h⟩
      cases he
      exact h

theorem isDotted_iff : isDotted s ↔ ∀ w ∈ s.splitOn '.', IsSegment w := by
  simp only [isDotted, splitAt_eq_splitOn, List.all_eq_true, isWord_iff]

-- Names are written with these characters.
def isNameChar (c : Char) : Bool :=
  isWordChar c || c == '.'

theorem isNameChar_iff : isNameChar c ↔ c.isAlphanum ∨ c = '_' ∨ c = '.' := by
  simp [isNameChar, isWordChar, or_assoc]

theorem toNat_lt_of_isNameChar (h : isNameChar c) : c.toNat < 128 := by
  cases isNameChar_iff.mp h
  case inl h => exact toNat_lt_of_isAlphanum h
  case inr h => rcases h with rfl | rfl <;> decide

theorem isNameChar_of_isWord (h : isWord w) : ∀ c ∈ w, isNameChar c := by
  have ⟨c, rest, hw, hc, hr⟩ := isWord_iff.mp h
  rw [hw, List.forall_mem_cons]
  refine ⟨isNameChar_iff.mpr (.inl ?_), fun d hd => isNameChar_iff.mpr ?_⟩
  case refine_1 => simp [Char.isAlphanum, hc]
  case refine_2 => exact (hr d hd).imp_right .inl

theorem isNameChar_of_isDotted (h : isDotted s) : ∀ c ∈ s, isNameChar c := by
  intro c hc
  cases eq_or_mem_of_mem '.' hc
  case inl h => simp [isNameChar, h]
  case inr hp =>
    have ⟨piece, hp, hc⟩ := hp
    exact isNameChar_of_isWord (List.all_eq_true.mp h piece hp) c hc

theorem firstOccurring_eq_none_iff :
    firstOccurring texts s = none ↔ ∀ t ∈ texts, ¬t.toList <:+: s := by
  simp [firstOccurring, List.find?_eq_none, occurs_iff]

-- Only two dangerous sequences can occur in a dotted text without a denied keyword: of the others,
-- some are keywords themselves, and some have a character that names are not written with.
theorem dangerousSequences_cases : ∀ q ∈ dangerousSequences,
    q ∈ ["0x", "0b"] ∨ (q ∈ deniedKeywords ∧ q.toList.map Char.toLower = q.toList) ∨
      q.toList.any fun c => !isNameChar c := by
  decide +kernel

theorem not_infix_of_dangerous (hd : isDotted s) (hz : ∀ q ∈ ["0x", "0b"], ¬q.toList <:+: s)
    (hk : ∀ k ∈ deniedKeywords, ¬k.toList <:+: lowercase s) :
    ∀ q ∈ dangerousSequences, ¬q.toList <:+: s := by
  intro q hq h
  have hc : ∀ c ∈ s, isNameChar c := isNameChar_of_isDotted hd
  obtain hq | ⟨hq, hl⟩ | hn := dangerousSequences_cases q hq
  · exact hz q hq h
  · exact hk q hq <| infix_lowercase (fun c hc' => toNat_lt_of_isNameChar (hc c hc')) hl h
  · have ⟨c, hcq, hn⟩ := List.any_eq_true.mp hn
    exact absurd (hc c (h.subset hcq)) (by simpa using hn)

-- A text that is a denied keyword need not be looked at for itself, since it also contains one.
theorem not_any_eq_of_not_infix (h : ∀ k ∈ deniedKeywords, ¬k.toList <:+: s) :
    deniedKeywords.any (·.toList == s) = false := by
  refine List.any_eq_false.mpr fun k hk he => h k hk ?_
  exact beq_iff_eq.mp he ▸ List.infix_refl s

theorem identifierRefusal?_eq_none_iff :
    identifierRefusal? s = none ↔
      s ≠ [] ∧ s.length ≤ greatestLength ∧ (∀ q ∈ dangerousSequences, ¬q.toList <:+: s) ∧
      (∀ k ∈ deniedKeywords, ¬k.toList <:+: lowercase s) ∧ isDotted s := by
  constructor
  case mp =>
    intro h
    have hn : s ≠ [] := fun hn => by simp [identifierRefusal?, hn] at h
    have hl : ¬greatestLength < s.length := fun hl => by simp [identifierRefusal?, hn, hl] at h
    have hq : firstOccurring dangerousSequences s = none := by
      refine Option.eq_none_iff_forall_ne_some.mpr fun q hq => ?_
      simp [identifierRefusal?, hn, hl, hq] at h
    have ha : deniedKeywords.any (·.toList == lowercase s) = false := by
      refine Bool.eq_false_iff.mpr fun ha => ?_
      simp only [identifierRefusal?, hq, ha] at h
      simp [hn, hl] at h
    have hk : firstOccurring deniedKeywords (lowercase s) = none := by
      refine Option.eq_none_iff_forall_ne_some.mpr fun k hk => ?_
      simp [identifierRefusal?, hn, hl, hq, ha, hk] at h
    have hd : isDotted s = true := by
      simpa [identifierRefusal?, hn, hl, hq, ha, hk] using h
    exact ⟨hn, Nat.le_of_not_lt hl, firstOccurring_eq_none_iff.mp hq,
      firstOccurring_eq_none_iff.mp hk, hd⟩
  case mpr =>
    intro ⟨hn, hl, hq, hk, hd⟩
    have hq := firstOccurring_eq_none_iff.mpr hq
    have ha := not_any_eq_of_not_infix hk
    have hk := firstOccurring_eq_none_iff.mpr hk
    simp [identifierRefusal?, hn, Nat.not_lt_of_le hl, hq, ha, hk, hd]

-- The texts that table names are written with.
structure InLanguage (t : List Char) : Prop where
  length_pos : 1 ≤ t.length
  length_le  : t.length ≤ 128
  segments   : ∀ w ∈ t.splitOn '.', IsSegment w
  numbers    : ∀ q ∈ ["0x", "0b"], ¬q.toList <:+: t
  keywords   : ∀ k ∈ deniedKeywords, ¬k.toList <:+: lowercase t
  catalogs   : ∀ k ∈ ["pg_", "mysql."], ¬k.toList <:+: lowercase t

-- The catalog that is looked for twice is a denied keyword.
theorem nameRefusal?_eq_none_iff : nameRefusal? s = none ↔ InLanguage s := by
  rw [nameRefusal?, Option.or_eq_none_iff, identifierRefusal?_eq_none_iff]
  constructor
  case mp =>
    intro ⟨⟨hn, hl, hq, hk, hd⟩, hc⟩
    have hc : firstOccurring catalogMarks (lowercase s) = none := by
      simpa using hc
    exact {
      length_pos  := List.length_pos_iff.mpr hn
      length_le   := hl
      segments    := isDotted_iff.mp hd
      numbers q h := hq q <| (by decide : ∀ q ∈ ["0x", "0b"], q ∈ dangerousSequences) q h
      keywords    := hk
      catalogs k h := firstOccurring_eq_none_iff.mp hc k (.tail _ h) }
  case mpr =>
    intro h
    have hd : isDotted s := isDotted_iff.mpr h.segments
    have hc : firstOccurring catalogMarks (lowercase s) = none := by
      refine firstOccurring_eq_none_iff.mpr (List.forall_mem_cons.mpr ⟨?_, h.catalogs⟩)
      exact h.keywords _ (by decide)
    refine ⟨⟨List.length_pos_iff.mp h.length_pos, h.length_le, ?_, h.keywords, hd⟩, by simp [hc]⟩
    exact not_infix_of_dangerous hd h.numbers h.keywords

namespace Name

variable {text : String} {name : Name}

theorem parse_eq_ok_iff :
    parse text = .ok name ↔
      nameRefusal? (trim text.toList) = none ∧ name.text = String.ofList (trim text.toList) := by
  unfold parse
  dsimp only
  split
  case h_1 h =>
    rw [String.toList_ofList] at h
    rw [Except.ok.injEq, Name.mk.injEq, eq_comm]
    exact ⟨fun hn => ⟨h, hn⟩, And.right⟩
  case h_2 h =>
    rw [String.toList_ofList] at h
    simp [h]

theorem isNameChar_of_mem (h : c ∈ name.text.toList) : isNameChar c :=
  isNameChar_of_isDotted (isDotted_iff.mpr (nameRefusal?_eq_none_iff.mp name.safe).segments) c h

theorem toList_text_of_parse (h : parse text = .ok name) : name.text.toList = trim text.toList := by
  rw [(parse_eq_ok_iff.mp h).2, String.toList_ofList]

theorem exists_parse_iff : (∃ name, parse text = .ok name) ↔ InLanguage (trim text.toList) := by
  rw [← nameRefusal?_eq_none_iff]
  constructor
  case mp => exact fun ⟨name, h⟩ => (parse_eq_ok_iff.mp h).1
  case mpr =>
    intro h
    exact ⟨⟨String.ofList (trim text.toList), by rwa [String.toList_ofList]⟩,
      parse_eq_ok_iff.mpr ⟨h, rfl⟩⟩

-- A text is accepted if it is in the language of names, apart from the blanks around it. The name
-- is then the text without these blanks, and has no characters but ASCII letters and digits,
-- underscores and points.
theorem parse_accepts_language (text : String) :
    ((∃ name, parse text = .ok name) ↔ InLanguage (trim text.toList)) ∧
    ∀ name, parse text = .ok name →
      name.text.toList = trim text.toList ∧
      ∀ c ∈ name.text.toList, c.isAlphanum ∨ c = '_' ∨ c = '.' := by
  refine ⟨exists_parse_iff, fun name h => ⟨toList_text_of_parse h, fun c hc => ?_⟩⟩
  exact isNameChar_iff.mp (isNameChar_of_mem hc)

end Name

end Table

end Outbox

import Mathlib.Algebra.Group.Nat.Defs
import Outbox.Proofs.Time.Calendar
import Outbox.Text.Search
import Outbox.Time.Notation
/-!
Timestamps that are written read back, whatever the year and the fraction, leap seconds included.
-/

namespace Outbox.Time

open Text (span_append)

variable {c : Char} {ds r : List Char} {n width : Nat}

-- A text that does not go on with a digit.
def EndsDigits (r : List Char) : Prop :=
  ∀ c ∈ r.head?, c.isDigit = false

theorem EndsDigits.cons (h : c.isDigit = false) : EndsDigits (c :: r) := by
  rintro _ ⟨⟩
  exact h

theorem isDigit_of_mem_padded (h : c ∈ padded width n) : c.isDigit := by
  cases List.mem_append.mp h
  case inl h =>
    rw [List.eq_of_mem_replicate h]
    decide
  case inr h => exact Nat.isDigit_of_mem_toDigits (by decide) (by decide) h

theorem le_length_padded : width ≤ (padded width n).length := by
  simp only [padded, List.length_append, List.length_replicate]
  omega

theorem length_padded (hw : 0 < width) (h : n < 10 ^ width) : (padded width n).length = width := by
  have : (Nat.toDigits 10 n).length ≤ width :=
    (Nat.length_toDigits_le_iff (by decide) hw).mpr h
  simp only [padded, List.length_append, List.length_replicate]
  omega

theorem exists_padded (hw : 0 < width) (n : Nat) :
    ∃ d ds, padded width n = d :: ds ∧ d.isDigit := by
  obtain ⟨d, ds, h⟩ := List.exists_cons_of_length_pos (Nat.lt_of_lt_of_le hw le_length_padded)
  have hd : d ∈ padded width n := h ▸ .head _
  exact ⟨d, ds, h, isDigit_of_mem_padded hd⟩

namespace Timestamp

theorem numberOf_padded : numberOf (padded width n) = n := by
  have hz (k : Nat) : (List.replicate k '0').foldl (fun n c => n * 10 + (c.toNat - '0'.toNat)) 0
      = 0 := by
    induction k
    case zero => rfl
    case succ k hi => simpa [List.replicate_succ] using hi
  have hn : Nat.ofDigitChars 10 (Nat.toDigits 10 n) 0 = n := Nat.ofDigitChars_ten_toDigits
  unfold numberOf padded
  rw [List.foldl_append, hz]
  simpa only [Nat.ofDigitChars, Nat.mul_comm] using hn

theorem skipBlanks_cons (h : Text.isBlank c = false) : skipBlanks (c :: r) = c :: r := by
  simp [skipBlanks, h]

theorem skipBlanks_padded (hw : 0 < width) :
    skipBlanks (padded width n ++ r) = padded width n ++ r := by
  have ⟨d, ds, h, hd⟩ := exists_padded hw n
  rw [h, List.cons_append]
  refine skipBlanks_cons (Text.isBlank_letter ?_)
  simp [Char.isAlphanum, hd]

theorem readDigits_append {least most : Nat} (hd : ∀ d ∈ ds, d.isDigit) (hl : least ≤ ds.length)
    (hm : ds.length ≤ most) (hr : EndsDigits r) :
    readDigits least most (ds ++ r) = some (numberOf ds, r) := by
  have hr : EndsDigits (r.take (most - ds.length)) := by
    intro c hc
    refine hr c ?_
    cases hk : most - ds.length
    case zero => simp [hk] at hc
    case succ => simpa [hk, List.head?_take] using hc
  have ht : ((ds ++ r).take most).takeWhile Char.isDigit = ds := by
    rw [List.take_append, List.take_of_length_le hm]
    exact (span_append hd hr).1
  simp [readDigits, ht, hl]

theorem readDigits_padded {least most : Nat} (hl : least ≤ width)
    (hm : (padded width n).length ≤ most) (hr : EndsDigits r) :
    readDigits least most (padded width n ++ r) = some (n, r) := by
  rw [readDigits_append (fun _ => isDigit_of_mem_padded) (Nat.le_trans hl le_length_padded) hm hr,
    numberOf_padded]

theorem readNumber_padded (h : n < 100) (hr : EndsDigits r) :
    readNumber (padded 2 n ++ r) = some (n, r) := by
  rw [readNumber, skipBlanks_padded (by decide)]
  exact readDigits_padded (by decide) (Nat.le_of_eq (length_padded (by decide) h)) hr

-- A sign says that the year may have more than four digits.
theorem readYear_writeYear {year : Int} (hr : EndsDigits r) :
    readYear (writeYear year ++ r) = some (year, r) := by
  have hd (n : Nat) : readDigits 1 (padded 4 n ++ r).length (padded 4 n ++ r) = some (n, r) :=
    readDigits_padded (by decide) (by simp) hr
  by_cases h : 0 ≤ year ∧ year ≤ 9999
  case pos =>
    have hn : (padded 4 year.toNat).length = 4 := length_padded (by decide) (by omega)
    have hd : readDigits 1 4 (padded 4 year.toNat ++ r) = some (year.toNat, r) :=
      readDigits_padded (by decide) (Nat.le_of_eq hn) hr
    have ⟨d, ds, hp, hdd⟩ := exists_padded (by decide : 0 < 4) year.toNat
    rw [writeYear, if_pos h, readYear, skipBlanks_padded (by decide)]
    rw [hp] at hd ⊢
    split
    case h_1 he => cases he; cases hdd
    case h_2 he => cases he; cases hdd
    case h_3 =>
      simp only [hd, Option.map_some, Int.toNat_of_nonneg h.1]
  case neg =>
    rw [writeYear, if_neg h, List.cons_append, readYear]
    by_cases hn : year < 0
    case pos =>
      rw [if_pos hn, skipBlanks_cons (by decide)]
      simp only [hd, Option.map_some, Int.ofNat_natAbs_of_nonpos (Int.le_of_lt hn), Int.neg_neg]
    case neg =>
      rw [if_neg hn, skipBlanks_cons (by decide)]
      simp only [hd, Option.map_some, Int.natAbs_of_nonneg (Int.not_lt.mp hn)]

theorem readMark_cons {marks : List Char} (h : c ∈ marks) : readMark marks (c :: r) = some r := by
  simp [readMark, h]

-- Decimals that are left out are zeros.
theorem readFraction_padded (hw : 0 < width) (hw9 : width ≤ 9) (h : n < 10 ^ width)
    (hr : EndsDigits r) :
    readFraction ('.' :: padded width n ++ r) = some (n * 10 ^ (9 - width), r) := by
  have hl : (padded width n).length = width := length_padded hw h
  have ⟨d, ds, hp, _⟩ := exists_padded hw n
  have hd : ∀ d ∈ padded width n, d.isDigit := fun _ => isDigit_of_mem_padded
  have ⟨ht, hd⟩ := span_append hd hr
  have hk : (padded width n).take 9 = padded width n := List.take_of_length_le (by omega)
  have hn : (padded width n).isEmpty = false := by simp [hp]
  simp [readFraction, ht, hd, hk, hn, hl, numberOf_padded]

theorem readFraction_writeFraction (h : n < nanosPerSecond) (hr : EndsDigits r)
    (hp : r.head? ≠ some '.') : readFraction (writeFraction n ++ r) = some (n, r) := by
  have h : n < 1000000000 := h
  unfold writeFraction
  split
  case isTrue hn =>
    rw [hn, List.nil_append, readFraction]
    rintro s rfl
    exact hp rfl
  case isFalse =>
    split
    case isTrue hn =>
      rw [readFraction_padded (by decide) (by decide) (by omega) hr]
      congr 2
      omega
    case isFalse =>
      split
      case isTrue hn =>
        rw [readFraction_padded (by decide) (by decide) (by omega) hr]
        congr 2
        omega
      case isFalse =>
        rw [readFraction_padded (by decide) (by decide) (by omega) hr]
        simp

theorem readDate_append {d : Date} (h : d.isValid) (hr : EndsDigits r) :
    readDate (writeYear d.year ++ '-' :: (padded 2 d.month ++ '-' :: (padded 2 d.day ++ r))) =
      some (d, r) := by
  have he (s : List Char) : EndsDigits ('-' :: s) := .cons (by decide)
  have ⟨hm, hd⟩ := Date.le_of_isValid h
  simp only [readDate, readYear_writeYear (he _),
    readNumber_padded (by omega : d.month < 100) (he _),
    readNumber_padded (by omega : d.day < 100) hr,
    skipBlanks_cons (by decide : Text.isBlank '-' = false),
    readMark_cons (by decide : '-' ∈ ['-']), Option.bind_eq_bind, Option.bind_some]
  rfl

theorem endsDigits_writeFraction (hr : EndsDigits r) : EndsDigits (writeFraction n ++ r) := by
  unfold writeFraction
  split
  case isTrue => exact hr
  case isFalse => split <;> (try split) <;> exact .cons (by decide)

-- A leap second is written as second sixty, and is read as nanoseconds behind second fifty-nine.
theorem readClock_append {clock nanos : Nat} (hc : clock < 86400) (hn : nanos < 2 * nanosPerSecond)
    (hs : nanosPerSecond ≤ nanos → clock % 60 = 59) (hr : EndsDigits r) (hp : r.head? ≠ some '.') :
    readClock (padded 2 (clock / 3600) ++ ':' :: (padded 2 (clock / 60 % 60) ++ ':' ::
        (padded 2 (clock % 60 + nanos / nanosPerSecond)
          ++ (writeFraction (nanos % nanosPerSecond) ++ r)))) =
      some ((clock : Int), nanos, r) := by
  have he (s : List Char) : EndsDigits (':' :: s) := .cons (by decide)
  have h9 : nanosPerSecond = 1000000000 := rfl
  have hdiv : nanos / nanosPerSecond = nanos / 1000000000 := rfl
  have hmod : nanos % nanosPerSecond = nanos % 1000000000 := rfl
  have hf : nanos % nanosPerSecond < nanosPerSecond := Nat.mod_lt _ (by decide)
  have hl : ¬(23 < clock / 3600 ∨ 59 < clock / 60 % 60 ∨
      60 < clock % 60 + nanos / nanosPerSecond) := by omega
  simp only [readClock, readNumber_padded (by omega : clock / 3600 < 100) (he _),
    readNumber_padded (by omega : clock / 60 % 60 < 100) (he _),
    readNumber_padded (by omega : clock % 60 + nanos / nanosPerSecond < 100)
      (endsDigits_writeFraction hr),
    readFraction_writeFraction hf hr hp, skipBlanks_cons (by decide : Text.isBlank ':' = false),
    readMark_cons (by decide : ':' ∈ [':']), Option.bind_eq_bind, Option.bind_some, if_neg hl,
    Option.pure_def]
  split <;> rw [Option.some.injEq, Prod.mk.injEq, Prod.mk.injEq] <;> refine ⟨?_, ?_, rfl⟩ <;>
    omega

-- An instant that can be represented lies in a year that is read.
theorem year_of_representable {t : Timestamp} (h : t.Representable) :
    leastYear ≤ (Date.ofDay (t.secs / secondsPerDay + epochDay)).year ∧
      (Date.ofDay (t.secs / secondsPerDay + epochDay)).year ≤ greatestYear := by
  obtain ⟨hl, hg, _⟩ := h
  have h86 : secondsPerDay = 86400 := rfl
  simp only [leastSecs, greatestSecs, h86] at hl hg
  rw [Date.year_ofDay, h86]
  exact ⟨le_yearOfDay (by omega), yearOfDay_le (by omega)⟩

theorem read_write {t : Timestamp} (h : t.Representable) : read t.write = some t := by
  have ⟨hyl, hyg⟩ := year_of_representable h
  obtain ⟨secs, nanos⟩ := t
  obtain ⟨hl, hg, hn, hs⟩ := h
  simp only at hyl hyg hn hs
  have hmod : secs % secondsPerDay = secs % 86400 := rfl
  have ⟨hv, hd⟩ := Date.ofDay_spec (secs / secondsPerDay + epochDay)
  have hc := readClock_append (r := ['Z']) (by omega : (secs % secondsPerDay).toNat < 86400) hn
    (by omega) (.cons (by decide)) (by decide)
  -- day and clock make up the seconds again
  have he : (secs / secondsPerDay + epochDay - epochDay) * secondsPerDay
      + (secs % secondsPerDay).toNat - 0 = secs := by
    have hdiv : secs / secondsPerDay = secs / 86400 := rfl
    have h86 : secondsPerDay = 86400 := rfl
    rw [h86]
    omega
  have hT (s : List Char) : EndsDigits ('T' :: s) := .cons (by decide)
  have ho : readOffset (skipBlanks ['Z']) = some (0, []) := by decide
  have hb : (skipBlanks []).isEmpty = true := rfl
  unfold write read
  simp only [List.append_assoc, List.cons_append, readDate_append hv (hT _),
    readMark_cons (by decide : 'T' ∈ ['T', 't', ' ']), hc, ho, hb, hv, Option.bind_eq_bind,
    Option.bind_some, Bool.not_true, Bool.false_eq_true, if_false, false_or,
    if_neg (not_or.mpr ⟨Int.not_lt.mpr hyl, Int.not_lt.mpr hyg⟩), hd]
  rw [he, if_neg (not_or.mpr ⟨Int.not_lt.mpr hl, Int.not_lt.mpr hg⟩)]
  rfl

end Timestamp

end Outbox.Time

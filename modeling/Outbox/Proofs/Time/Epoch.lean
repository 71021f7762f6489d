import Outbox.Proofs.Time.Notation
/-!
Spellings of the zero instant: there is one for every offset, separator and count of decimals.
-/

namespace Outbox.Time.Timestamp

variable {r : List Char} {zeros hours minutes : Nat} {separator : Char} {offset : Int}

def zeroFraction : Nat → List Char
  | 0         => []
  | zeros + 1 => '.' :: List.replicate (zeros + 1) '0'

-- The day of the zero instant, where clocks show that many minutes more than in Greenwich.
def epochDate (offset : Int) : Date :=
  if offset < 0 then ⟨1969, 12, 31⟩ else ⟨1970, 1, 1⟩

def writeOffset (offset : Int) : List Char :=
  (if offset < 0 then '-' else '+') ::
    (padded 2 (offset.natAbs / 60) ++ ':' :: padded 2 (offset.natAbs % 60))

-- The zero instant as it is told there.
def epochSpelling (separator : Char) (zeros : Nat) (offset : Int) : List Char :=
  let date := epochDate offset
  let clock := (offset % 1440).toNat
  writeYear date.year ++ '-' :: (padded 2 date.month ++ '-' :: (padded 2 date.day ++
    separator :: (padded 2 (clock / 60) ++ ':' :: (padded 2 (clock % 60) ++ ':' :: (padded 2 0 ++
      (zeroFraction zeros ++ writeOffset offset))))))

example : String.ofList (epochSpelling 't' 3 (-90)) = "1969-12-31t22:30:00.000-01:30" := by
  decide +kernel

theorem numberOf_zeros : numberOf (List.replicate zeros '0') = 0 := by
  unfold numberOf
  induction zeros
  case zero => rfl
  case succ hi => rwa [List.replicate_succ, List.foldl_cons]

theorem readFraction_zeros (hr : EndsDigits r) (hp : r.head? ≠ some '.') :
    readFraction (zeroFraction zeros ++ r) = some (0, r) := by
  cases zeros
  case zero =>
    rw [zeroFraction, List.nil_append, readFraction]
    rintro s rfl
    exact hp rfl
  case succ zeros =>
    have hd : ∀ d ∈ List.replicate (zeros + 1) '0', d.isDigit := by
      intro d hd
      rw [List.eq_of_mem_replicate hd]
      decide
    obtain ⟨ht, hd⟩ := Text.span_append hd hr
    have he : (List.replicate (zeros + 1) '0').isEmpty = false := rfl
    simp [zeroFraction, readFraction, ht, hd, he, List.take_replicate, numberOf_zeros]

theorem endsDigits_zeroFraction (hr : EndsDigits r) : EndsDigits (zeroFraction zeros ++ r) := by
  cases zeros
  case zero => exact hr
  case succ => exact .cons (by decide)

-- A clock that shows whole minutes.
theorem readClock_minutes (zeros : Nat) (hh : hours ≤ 23) (hm : minutes ≤ 59)
    (hr : EndsDigits r) (hp : r.head? ≠ some '.') :
    readClock (padded 2 hours ++ ':' :: (padded 2 minutes ++ ':' :: (padded 2 0 ++
        (zeroFraction zeros ++ r)))) =
      some (((hours * 60 + minutes : Nat) : Int) * 60, 0, r) := by
  have he (s : List Char) : EndsDigits (':' :: s) := .cons (by decide)
  have hl : ¬(23 < hours ∨ 59 < minutes ∨ 60 < 0) := by omega
  simp only [readClock, readNumber_padded (by omega : hours < 100) (he _),
    readNumber_padded (by omega : minutes < 100) (he _),
    readNumber_padded (by decide : 0 < 100) (endsDigits_zeroFraction hr),
    readFraction_zeros hr hp, skipBlanks_cons (by decide : Text.isBlank ':' = false),
    readMark_cons (by decide : ':' ∈ [':']), Option.bind_eq_bind, Option.bind_some, if_neg hl,
    Option.pure_def]
  rw [if_neg (by decide)]
  simp

theorem readOffset_cons {sign : Char} (hs : sign = '+' ∨ sign = '-') (hh : hours ≤ 23)
    (hm : minutes ≤ 59) :
    readOffset (sign :: (padded 2 hours ++ ':' :: padded 2 minutes)) =
      some (if sign = '+' then ((hours * 60 + minutes : Nat) : Int) * 60
        else -(((hours * 60 + minutes : Nat) : Int) * 60), []) := by
  have he : EndsDigits (':' :: padded 2 minutes) := .cons (by decide)
  have hc : (':' :: padded 2 minutes).dropWhile (fun c => c == ':' || Text.isBlank c) =
      padded 2 minutes := by
    obtain ⟨d, ds, h, hd⟩ := exists_padded (by decide : 0 < 2) minutes
    have hb : (d == ':' || Text.isBlank d) = false := by
      rw [Text.isBlank_letter (by simp [Char.isAlphanum, hd]), Bool.or_false, beq_eq_false_iff_ne]
      rintro rfl
      cases hd
    simp [h, hb]
  have hrh : readDigits 2 2 (padded 2 hours ++ ':' :: padded 2 minutes) =
      some (hours, ':' :: padded 2 minutes) :=
    readDigits_padded (by decide) (Nat.le_of_eq (length_padded (by decide) (by omega))) he
  have hrm : readDigits 2 2 (padded 2 minutes) = some (minutes, []) := by
    simpa using readDigits_padded (r := []) (by decide : 2 ≤ 2)
      (Nat.le_of_eq (length_padded (n := minutes) (by decide) (by omega))) (by simp [EndsDigits])
  have hl : ¬(23 < hours ∨ 59 < minutes) := by omega
  cases hs
  all_goals
    subst sign
    simp [readOffset, hrh, hc, hrm, hl]

theorem readOffset_writeOffset (h : offset.natAbs < 1440) :
    readOffset (writeOffset offset) = some (offset * 60, []) := by
  have hh : offset.natAbs / 60 ≤ 23 := by omega
  have hm : offset.natAbs % 60 ≤ 59 := by omega
  unfold writeOffset
  split
  case isTrue hn =>
    rw [readOffset_cons (.inr rfl) hh hm, if_neg (by decide), Option.some.injEq, Prod.mk.injEq]
    exact ⟨by omega, rfl⟩
  case isFalse hn =>
    rw [readOffset_cons (.inl rfl) hh hm, if_pos rfl, Option.some.injEq, Prod.mk.injEq]
    exact ⟨by omega, rfl⟩

theorem epochDate_spec (offset : Int) :
    (epochDate offset).isValid ∧ leastYear ≤ (epochDate offset).year ∧
      (epochDate offset).year ≤ greatestYear ∧
      (epochDate offset).dayNumber - epochDay = if offset < 0 then -1 else 0 := by
  unfold epochDate
  split <;> decide

theorem read_epochSpelling (hs : separator ∈ ['T', 't', ' ']) (h : offset.natAbs < 1440) :
    read (epochSpelling separator zeros offset) = some .zero := by
  have ⟨hv, hyl, hyg, hd⟩ := epochDate_spec offset
  have hsd (s : List Char) : EndsDigits (separator :: s) := by
    refine .cons ?_
    simp only [List.mem_cons, List.not_mem_nil, or_false] at hs
    rcases hs with rfl | rfl | rfl <;> decide
  have hr : EndsDigits (writeOffset offset) := by
    refine .cons ?_
    split <;> decide
  have hp : (writeOffset offset).head? ≠ some '.' := by
    unfold writeOffset
    split <;> simp
  have hb : skipBlanks (writeOffset offset) = writeOffset offset := by
    refine skipBlanks_cons ?_
    split <;> decide
  have hc := readClock_minutes zeros
    (by omega : (offset % 1440).toNat / 60 ≤ 23) (by omega : (offset % 1440).toNat % 60 ≤ 59) hr hp
  have hn : (skipBlanks []).isEmpty = true := rfl
  -- what the clock shows more than at midnight is taken off again
  have hz : (if offset < 0 then (-1 : Int) else 0) * secondsPerDay +
      (((offset % 1440).toNat / 60 * 60 + (offset % 1440).toNat % 60 : Nat) : Int) * 60
      - offset * 60 = 0 := by
    have h86 : secondsPerDay = 86400 := rfl
    rw [h86]
    split <;> omega
  unfold epochSpelling read
  simp only [readDate_append hv (hsd _), readMark_cons hs, hc, hb, readOffset_writeOffset h, hn, hv,
    Option.bind_eq_bind, Option.bind_some, Bool.not_true, Bool.false_eq_true, if_false, false_or,
    if_neg (not_or.mpr ⟨Int.not_lt.mpr hyl, Int.not_lt.mpr hyg⟩), hd,
    hz]
  decide

end Outbox.Time.Timestamp

import Mathlib.Algebra.Ring.Nat
import Outbox.Time.Timestamp
/-!
The calendar translates days into dates and back without loss.
-/

namespace Outbox.Time

variable {day year year' : Int} {n : Nat} {lengths : List Nat}

theorem firstDay_mono (h : year ≤ year') : firstDay year ≤ firstDay year' := by
  unfold firstDay
  omega

-- A year has as many days as its months.
theorem firstDay_succ (year : Int) :
    firstDay (year + 1) = firstDay year + (monthLengths (isLeapYear year)).sum := by
  unfold firstDay monthLengths isLeapYear
  by_cases h : year % 4 = 0 ∧ (year % 100 ≠ 0 ∨ year % 400 = 0)
  case pos =>
    have hl : (year % 4 == 0 && (year % 100 != 0 || year % 400 == 0)) = true := by simpa using h
    simp only [hl, if_true, List.sum_cons, List.sum_nil]
    omega
  case neg =>
    have hl : (year % 4 == 0 && (year % 100 != 0 || year % 400 == 0)) = false := by
      simpa [not_and_or] using h
    simp only [hl, Bool.false_eq_true, if_false, List.sum_cons, List.sum_nil]
    omega

theorem le_yearOfDay (h : firstDay year ≤ day) : year ≤ yearOfDay day := by
  by_contra hn
  have := firstDay_mono (Int.add_one_le_of_lt (Int.lt_of_not_ge hn))
  have := lt_firstDay_yearOfDay day
  omega

theorem yearOfDay_le (h : day < firstDay (year + 1)) : yearOfDay day ≤ year := by
  by_contra hn
  have := firstDay_mono (Int.add_one_le_of_lt (Int.lt_of_not_ge hn))
  have := firstDay_yearOfDay_le day
  omega

-- The month of a day is the one in whose days the count of months before it ends.
theorem monthOfDay_eq (month : Nat) (h : n < lengths.sum) :
    ∃ i length, lengths[i]? = some length ∧
      monthOfDay month n lengths = (month + i, n - (lengths.take i).sum) ∧
      (lengths.take i).sum ≤ n ∧ n - (lengths.take i).sum < length := by
  induction lengths generalizing month n
  case nil => cases h
  case cons length rest hi =>
    cases rest
    case nil => exact ⟨0, length, rfl, rfl, Nat.zero_le _, by simpa using h⟩
    case cons next rest =>
      by_cases hn : n < length
      case pos => exact ⟨0, length, rfl, by simp [monthOfDay, hn], Nat.zero_le _,
        by simpa using hn⟩
      case neg =>
        rw [List.sum_cons] at h
        obtain ⟨i, l, hl, he, hle, hlt⟩ := hi (n := n - length) (month + 1) (by omega)
        refine ⟨i + 1, l, hl, ?_, ?_, ?_⟩
        case refine_1 =>
          simp only [monthOfDay, hn, if_false, he, List.take_succ_cons, List.sum_cons,
            Prod.mk.injEq]
          omega
        all_goals simp only [List.take_succ_cons, List.sum_cons]; omega

namespace Date

theorem year_ofDay (day : Int) : (ofDay day).year = yearOfDay day := rfl

theorem le_of_isValid {d : Date} (h : d.isValid) : d.month ≤ 12 ∧ d.day ≤ 31 := by
  simp only [isValid, Bool.and_eq_true, decide_eq_true_eq] at h
  obtain ⟨⟨⟨_, hm⟩, hd⟩, hl⟩ := h
  refine ⟨hm, ?_⟩
  cases hi : d.lengths[d.month - 1]?
  case none =>
    rw [hi, Option.getD_none] at hl
    omega
  case some length =>
    have hmem := List.mem_of_getElem? hi
    simp only [lengths, monthLengths, List.mem_cons, List.not_mem_nil, or_false] at hmem
    rw [hi, Option.getD_some] at hl
    rcases hmem with h | h | h | h | h | h | h | h | h | h | h | h <;> (try split at h) <;> omega

-- The date of a day exists, and has the number of the day.
theorem ofDay_spec (day : Int) : (ofDay day).isValid ∧ (ofDay day).dayNumber = day := by
  have hl := firstDay_yearOfDay_le day
  have hu := lt_firstDay_yearOfDay day
  rw [firstDay_succ] at hu
  have hn : (day - firstDay (yearOfDay day)).toNat
      < (monthLengths (isLeapYear (yearOfDay day))).sum := by omega
  obtain ⟨i, length, hi, he, hle, hlt⟩ := monthOfDay_eq 1 hn
  have hd : ofDay day = ⟨yearOfDay day, 1 + i,
      (day - firstDay (yearOfDay day)).toNat
        - ((monthLengths (isLeapYear (yearOfDay day))).take i).sum + 1⟩ := by
    simp only [ofDay, he]
  have hlen : i < 12 := by
    have := (List.getElem?_eq_some_iff.mp hi).1
    simpa [monthLengths] using this
  rw [hd]
  constructor
  case left =>
    simp only [isValid, lengths, Nat.add_sub_cancel_left, hi, Option.getD_some, Bool.and_eq_true,
      decide_eq_true_eq]
    omega
  case right =>
    simp only [dayNumber, lengths, Nat.add_sub_cancel_left, ← List.sum_eq_foldl_nat]
    omega

end Date

end Outbox.Time

import Outbox.Proofs.Time.Words
import Outbox.Retry
/-!
How long the waits between attempts are, and how many attempts there are. Lengths and counts end at
the greatest ones that can be told and never start over.
-/

namespace Outbox.Retry.Policy

open Time (Duration Words)

variable {p q : Policy} {m n : Nat}

theorem wholeMillis_backoffAfter (p : Policy) (k : Nat) :
    (p.backoffAfter k).wholeMillis =
      min (k * p.unit.nanos / Time.nanosPerMilli) (Time.countLimit - 1) := by
  have hl : Duration.longest.nanos = 18446744073709551615999999999 := rfl
  have hm : Time.nanosPerMilli = 1000000 := rfl
  have hc : Time.countLimit = 18446744073709551616 := rfl
  rw [Duration.wholeMillis, backoffAfter, Duration.nanos_times, Nat.mul_comm, hl, hm, hc]
  omega

theorem nanos_backoffAfter_eq_min (p : Policy) (n : Nat) :
    (p.backoffAfter n).nanos = min (n * p.unit.nanos) Duration.longest.nanos := by
  rw [backoffAfter, Duration.nanos_times, Nat.mul_comm]

theorem nanos_backoffAfter_mono (hn : m ≤ n) (hu : p.unit.nanos ≤ q.unit.nanos) :
    (p.backoffAfter m).nanos ≤ (q.backoffAfter n).nanos := by
  rw [nanos_backoffAfter_eq_min, nanos_backoffAfter_eq_min]
  have h : m * p.unit.nanos ≤ n * q.unit.nanos := Nat.mul_le_mul hn hu
  omega

theorem maxRetries_le_maxAttempts (p : Policy) : p.maxRetries.toNat ≤ p.maxAttempts := by
  have h := p.maxRetries.toNat_lt
  unfold maxAttempts
  omega

-- One attempt more than there are retries, in 32 bits, or as many if these do not count further.
def countedAttempts (p : Policy) : UInt32 :=
  if p.maxRetries = 0xffffffff then p.maxRetries else p.maxRetries + 1

theorem toNat_countedAttempts (p : Policy) : p.countedAttempts.toNat = p.maxAttempts := by
  have hl : (0xffffffff : UInt32).toNat = 4294967295 := rfl
  have h := p.maxRetries.toNat_lt
  unfold countedAttempts maxAttempts
  split
  case isTrue he =>
    rw [he, hl]
    rfl
  case isFalse hn =>
    have hn : p.maxRetries.toNat ≠ 4294967295 := fun he =>
      hn (UInt32.toNat_inj.mp (he.trans hl.symm))
    rw [UInt32.toNat_add, UInt32.toNat_one]
    omega

-- How long is waited behind an attempt, and how many attempts there are.
theorem backoffAfter_saturates (p : Policy) (attempt : UInt32) :
    let product := attempt.toNat * (p.unit.seconds * Time.nanosPerSecond + p.unit.subsecond)
    -- The wait is as long as it should be, or the longest one if that is longer still.
    (product ≤ Duration.longest.nanos → (p.backoffAfter attempt.toNat).nanos = product) ∧
    (Duration.longest.nanos < product → p.backoffAfter attempt.toNat = .longest) ∧
    (∀ unit : Words, unit.duration = p.unit →
      (unit.times attempt).duration = p.backoffAfter attempt.toNat) ∧
    -- It becomes no shorter with further attempts or a longer unit.
    (∀ later : UInt32, attempt ≤ later →
      (p.backoffAfter attempt.toNat).nanos ≤ (p.backoffAfter later.toNat).nanos) ∧
    (∀ q : Policy, p.unit.nanos ≤ q.unit.nanos →
      (p.backoffAfter attempt.toNat).nanos ≤ (q.backoffAfter attempt.toNat).nanos) ∧
    -- Its milliseconds are counted as far as 64 bits count.
    (p.backoffAfter attempt.toNat).wholeMillis =
      min (product / Time.nanosPerMilli) (UInt64.size - 1) ∧
    (∀ d e : Duration, d.nanos ≤ e.nanos → d.wholeMillis ≤ e.wholeMillis) ∧
    (∀ d : Duration, ∃ w : Words, w.duration = d ∧ w.wholeMillis.toNat = d.wholeMillis) ∧
    -- There is always an attempt, and never fewer than retries.
    1 ≤ p.maxAttempts ∧ p.maxRetries.toNat ≤ p.maxAttempts ∧
      p.maxAttempts = p.countedAttempts.toNat := by
  intro product
  have hu : p.unit.seconds * Time.nanosPerSecond + p.unit.subsecond = p.unit.nanos :=
    Nat.div_add_mod' _ _
  have hp : product = attempt.toNat * p.unit.nanos := congrArg (attempt.toNat * ·) hu
  have hb : (p.backoffAfter attempt.toNat).nanos = min product Duration.longest.nanos := by
    rw [hp, nanos_backoffAfter_eq_min]
  refine ⟨fun h => ?exact, fun h => ?longest, fun unit h => ?words, fun later h => ?later,
    fun q h => nanos_backoffAfter_mono (Nat.le_refl _) h, ?millis,
    fun d e h => Duration.wholeMillis_mono h, fun d => ?counted, p.maxAttempts_pos,
    p.maxRetries_le_maxAttempts, p.toNat_countedAttempts.symm⟩
  case exact => rw [hb, Nat.min_eq_left h]
  case longest => exact Duration.eq_of_nanos (by rw [hb, Nat.min_eq_right (Nat.le_of_lt h)])
  case words => rw [unit.duration_times, h, backoffAfter]
  case later => exact nanos_backoffAfter_mono (UInt32.le_iff_toNat_le.mp h) (Nat.le_refl _)
  case millis =>
    rw [hp, wholeMillis_backoffAfter]
    rfl
  case counted =>
    obtain ⟨w, rfl⟩ := Words.exists_duration_eq d
    exact ⟨w, rfl, w.toNat_wholeMillis⟩

theorem backoffAfter_saturates_third :
    let p : Policy := ⟨0xffffffff, .ofNanos 9223372036854775807999999999⟩
    (p.backoffAfter 2).nanos = 18446744073709551615999999998 ∧ p.backoffAfter 3 = .longest ∧
    (p.backoffAfter 3).wholeMillis = UInt64.size - 1 := by
  intro p
  obtain ⟨h, _⟩ := backoffAfter_saturates p 2
  obtain ⟨_, h', _, _, _, hm, _⟩ := backoffAfter_saturates p 3
  exact ⟨(h (by decide)).trans (by decide), h' (by decide), hm.trans (by decide)⟩

end Outbox.Retry.Policy

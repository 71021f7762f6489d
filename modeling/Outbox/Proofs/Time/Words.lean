import Outbox.Time.Duration
/-!
Spans of time in two machine words: whole seconds in 64 bits, and in 32 bits the nanoseconds beyond
them, which are fewer than a second has. Multiples and milliseconds that are computed word by word,
with what is carried from one word to the other, are those of the span as a whole.
-/

namespace Outbox.Time

theorem Duration.eq_of_nanos {d e : Duration} (h : d.nanos = e.nanos) : d = e := by
  cases d
  cases e
  cases h
  rfl

theorem Duration.wholeMillis_mono {d e : Duration} (h : d.nanos ≤ e.nanos) :
    d.wholeMillis ≤ e.wholeMillis := by
  have hd : d.nanos / nanosPerMilli ≤ e.nanos / nanosPerMilli := Nat.div_le_div_right h
  unfold wholeMillis
  omega

structure Words where
  seconds : UInt64
  nanos   : UInt32
  bound   : nanos.toNat < nanosPerSecond

namespace Words

def duration (w : Words) : Duration where
  nanos := w.seconds.toNat * nanosPerSecond + w.nanos.toNat
  bound := by
    have hs := w.seconds.toNat_lt
    have hn := w.bound
    simp only [countLimit, nanosPerSecond] at hn ⊢
    omega

def longest : Words := ⟨0xffffffffffffffff, 999999999, by decide⟩

-- Products and sums in 64 bits, unless they take more.
def product? (a b : UInt64) : Option UInt64 :=
  if a.toNat * b.toNat < countLimit then some (a * b) else none

def sum? (a b : UInt64) : Option UInt64 :=
  if a.toNat + b.toNat < countLimit then some (a + b) else none

-- The nanoseconds of `n` times the span, as far as they do not come from its seconds.
def allNanos (w : Words) (n : UInt32) : UInt64 :=
  w.nanos.toUInt64 * n.toUInt64

-- The seconds that are carried, and the nanoseconds that are left.
def carried (w : Words) (n : UInt32) : UInt64 :=
  w.allNanos n / 1000000000

def left (w : Words) (n : UInt32) : UInt32 :=
  (w.allNanos n % 1000000000).toUInt32

-- 64 bits hold all of them.
theorem toNat_allNanos (w : Words) (n : UInt32) :
    (w.allNanos n).toNat = w.nanos.toNat * n.toNat := by
  have hw : w.nanos.toNat < 1000000000 := w.bound
  have hn := n.toNat_lt
  have h : w.nanos.toNat * n.toNat ≤ 1000000000 * 2 ^ 32 := Nat.mul_le_mul (by omega) (by omega)
  rw [allNanos, UInt64.toNat_mul, UInt32.toNat_toUInt64, UInt32.toNat_toUInt64]
  exact Nat.mod_eq_of_lt (by omega)

theorem toNat_carried (w : Words) (n : UInt32) :
    (w.carried n).toNat = w.nanos.toNat * n.toNat / nanosPerSecond := by
  rw [carried, UInt64.toNat_div, toNat_allNanos]
  rfl

theorem toNat_left (w : Words) (n : UInt32) :
    (w.left n).toNat = w.nanos.toNat * n.toNat % nanosPerSecond := by
  have h := Nat.mod_lt (w.nanos.toNat * n.toNat) (y := nanosPerSecond) (by decide)
  have he : (w.allNanos n % 1000000000).toNat = w.nanos.toNat * n.toNat % nanosPerSecond := by
    rw [UInt64.toNat_mod, toNat_allNanos]
    rfl
  rw [left, UInt64.toNat_toUInt32, he]
  exact Nat.mod_eq_of_lt (Nat.lt_trans h (by decide))

theorem toNat_left_lt (w : Words) (n : UInt32) : (w.left n).toNat < nanosPerSecond := by
  rw [toNat_left]
  exact Nat.mod_lt _ (by decide)

-- `n` times the span, unless its seconds take more than 64 bits.
def times? (w : Words) (n : UInt32) : Option Words := do
  let seconds ← product? w.seconds n.toUInt64
  let seconds ← sum? seconds (w.carried n)
  return ⟨seconds, w.left n, w.toNat_left_lt n⟩

def times (w : Words) (n : UInt32) : Words :=
  (w.times? n).getD longest

variable {w : Words} {n : UInt32} {a b : UInt64}

theorem product?_of_lt (h : a.toNat * b.toNat < countLimit) :
    ∃ c, product? a b = some c ∧ c.toNat = a.toNat * b.toNat :=
  ⟨a * b, if_pos h, by rw [UInt64.toNat_mul]; exact Nat.mod_eq_of_lt h⟩

theorem sum?_of_lt (h : a.toNat + b.toNat < countLimit) :
    ∃ c, sum? a b = some c ∧ c.toNat = a.toNat + b.toNat :=
  ⟨a + b, if_pos h, by rw [UInt64.toNat_add]; exact Nat.mod_eq_of_lt h⟩

-- The seconds of `n` times the span, and those that were carried.
theorem nanos_duration_mul (w : Words) (n : UInt32) :
    w.duration.nanos * n.toNat =
      (w.seconds.toNat * n.toNat + (w.carried n).toNat) * nanosPerSecond + (w.left n).toNat := by
  rw [toNat_carried, toNat_left, Nat.add_mul, Nat.add_assoc, Nat.div_add_mod', duration,
    Nat.add_mul, Nat.mul_right_comm]

theorem times?_of_le (h : w.duration.nanos * n.toNat ≤ Duration.longest.nanos) :
    ∃ v, w.times? n = some v ∧ v.duration.nanos = w.duration.nanos * n.toNat := by
  have hl : Duration.longest.nanos = 18446744073709551615999999999 := rfl
  have hs : w.seconds.toNat * n.toNat + (w.carried n).toNat < countLimit := by
    have hm := nanos_duration_mul w n
    simp only [nanosPerSecond] at hm
    simp only [countLimit]
    omega
  obtain ⟨p, hp, hp'⟩ := product?_of_lt (a := w.seconds) (b := n.toUInt64)
    (Nat.lt_of_le_of_lt (Nat.le_add_right _ _) hs)
  rw [UInt32.toNat_toUInt64] at hp'
  rw [← hp'] at hs
  obtain ⟨q, hq, hq'⟩ := sum?_of_lt hs
  refine ⟨⟨q, w.left n, w.toNat_left_lt n⟩, by simp [times?, hp, hq], ?_⟩
  show q.toNat * nanosPerSecond + (w.left n).toNat = _
  rw [nanos_duration_mul, hq', hp']

theorem times?_of_lt (h : Duration.longest.nanos < w.duration.nanos * n.toNat) :
    w.times? n = none := by
  have hl : Duration.longest.nanos = 18446744073709551615999999999 := rfl
  have hs : countLimit ≤ w.seconds.toNat * n.toNat + (w.carried n).toNat := by
    have hm := nanos_duration_mul w n
    have hn := w.toNat_left_lt n
    simp only [nanosPerSecond] at hm hn
    simp only [countLimit]
    omega
  by_cases hp : w.seconds.toNat * n.toUInt64.toNat < countLimit
  case pos =>
    obtain ⟨p, hp, hp'⟩ := product?_of_lt hp
    have hq : sum? p (w.carried n) = none := if_neg (Nat.not_lt.mpr (hp' ▸ hs))
    simp [times?, hp, hq]
  case neg =>
    have hp : product? w.seconds n.toUInt64 = none := if_neg hp
    simp [times?, hp]

theorem duration_times (w : Words) (n : UInt32) :
    (w.times n).duration = w.duration.times n.toNat := by
  refine Duration.eq_of_nanos ?_
  rw [Duration.nanos_times, times]
  by_cases h : w.duration.nanos * n.toNat ≤ Duration.longest.nanos
  case pos =>
    obtain ⟨v, hv, hn⟩ := times?_of_le h
    rw [hv, Option.getD_some, hn, Nat.min_eq_left h]
  case neg =>
    have h := Nat.lt_of_not_le h
    rw [times?_of_lt h, Option.getD_none, Nat.min_eq_right (Nat.le_of_lt h)]
    rfl

-- The milliseconds of the span, in 128 bits.
def millis (w : Words) : BitVec 128 :=
  .ofNat 128 w.seconds.toNat * 1000 + .ofNat 128 (w.nanos / 1000000).toNat

-- As many of them as 64 bits count.
def wholeMillis (w : Words) : UInt64 :=
  if w.millis.toNat < countLimit then .ofNat w.millis.toNat else 0xffffffffffffffff

theorem toNat_millis (w : Words) : w.millis.toNat = w.duration.nanos / nanosPerMilli := by
  have hs := w.seconds.toNat_lt
  have hn := w.bound
  have hm : (1000000 : UInt32).toNat = 1000000 := rfl
  simp only [nanosPerSecond] at hn
  rw [millis, BitVec.toNat_add, BitVec.toNat_mul, BitVec.toNat_ofNat, BitVec.toNat_ofNat,
    UInt32.toNat_div, hm]
  simp only [duration, nanosPerSecond, nanosPerMilli, BitVec.reduceToNat]
  omega

theorem toNat_wholeMillis (w : Words) : w.wholeMillis.toNat = w.duration.wholeMillis := by
  have hl : (0xffffffffffffffff : UInt64).toNat = countLimit - 1 := rfl
  rw [wholeMillis, Duration.wholeMillis, toNat_millis]
  split
  case isTrue h =>
    rw [UInt64.toNat_ofNat', Nat.min_eq_left (Nat.le_sub_one_of_lt h)]
    exact Nat.mod_eq_of_lt h
  case isFalse h =>
    rw [hl, Nat.min_eq_right (Nat.le_trans (Nat.sub_le _ _) (Nat.le_of_not_lt h))]

-- Each span has its two words.
theorem exists_duration_eq (d : Duration) : ∃ w : Words, w.duration = d := by
  have hs : d.seconds < UInt64.size := Nat.div_lt_of_lt_mul (Nat.mul_comm _ _ ▸ d.bound)
  have hn : d.subsecond < nanosPerSecond := Nat.mod_lt _ (by decide)
  have hn' : d.subsecond < UInt32.size := Nat.lt_trans hn (by decide)
  refine ⟨⟨.ofNatLT d.seconds hs, .ofNatLT d.subsecond hn', hn⟩, Duration.eq_of_nanos ?_⟩
  exact Nat.div_add_mod' d.nanos nanosPerSecond

end Words
end Outbox.Time

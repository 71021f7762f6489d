import Mathlib.Logic.Basic
import Outbox.Retry
/-!
Waiting in a scope. It is over when its time has passed or when the scope stops, whatever comes
first; if both come together the scope has stopped.
-/

namespace Outbox

namespace Instant

variable {t u : Instant}

theorem wholeMilli_mono (h : t ≤ u) : t.wholeMilli ≤ u.wholeMilli :=
  Nat.mul_le_mul_right _ <| Nat.div_le_div_right <| Nat.add_le_add_right h _

theorem wholeMilli_wholeMilli (t : Instant) : t.wholeMilli.wholeMilli = t.wholeMilli := by
  have h : Time.nanosPerMilli = 1000000 := rfl
  simp only [wholeMilli, h]
  generalize (t + (1000000 - 1)) / 1000000 = n
  show @Eq Nat _ _
  omega

-- Sleepers wake up at whole milliseconds.
theorem wholeMilli_sleepEnd (t : Instant) (d : Time.Duration) :
    (t.sleepEnd d).wholeMilli = t.sleepEnd d := by
  unfold sleepEnd
  split
  all_goals exact wholeMilli_wholeMilli _

-- A clock that only sleepers move stands at such instants.
def IsWhole (t : Instant) : Prop :=
  t.wholeMilli = t

theorem IsWhole.wholeMilli_add (h : t.IsWhole) (n : Nat) :
    wholeMilli (t + n) = t + wholeMilli n := by
  have hm : Time.nanosPerMilli = 1000000 := rfl
  simp only [IsWhole, wholeMilli, hm] at h ⊢
  generalize (t + (1000000 - 1)) / 1000000 = q at h
  subst h
  show @Eq Nat _ _
  omega

-- Can a clock tell this instant?
def CanBeTold (t : Instant) : Prop :=
  t / Time.nanosPerSecond ≤ greatestSeconds

end Instant

namespace Scope

variable {s : Scope} {now finish t u : Instant}

def HasStopped (s : Scope) (t : Instant) : Prop :=
  s.stopped? t ≠ none

theorem not_hasStopped_iff : ¬s.HasStopped t ↔ s.stopped? t = none :=
  not_not

theorem isCancelled_iff : s.isCancelled t ↔ ∃ c, s.cancelledFrom = some c ∧ c ≤ t := by
  simp [isCancelled, Option.any_eq_true]

theorem isExpired_iff : s.isExpired t ↔ ∃ d, s.deadline = some d ∧ d ≤ t := by
  simp [isExpired, Option.any_eq_true]

theorem hasStopped_iff : s.HasStopped t ↔ s.isCancelled t ∨ s.isExpired t := by
  unfold HasStopped stopped?
  cases s.isCancelled t <;> cases s.isExpired t <;> simp

-- The switch counts before the deadline.
theorem HasStopped.stopped?_eq (h : s.HasStopped t) :
    s.stopped? t = some (if s.isCancelled t then .cancelled else .deadlineExceeded) := by
  cases hasStopped_iff.mp h
  case inl hc => simp [stopped?, hc]
  case inr hd => cases hc : s.isCancelled t <;> simp [stopped?, hc, hd]

theorem hasStopped_of_eq_some {reason : Stop} (h : s.stopped? t = some reason) :
    s.HasStopped t ∧ reason = if s.isCancelled t then .cancelled else .deadlineExceeded := by
  have hs : s.HasStopped t := by simp [HasStopped, h]
  rw [hs.stopped?_eq] at h
  exact ⟨hs, Option.some.inj h.symm⟩

-- A scope does not go on again.
theorem HasStopped.mono (h : s.HasStopped t) (htu : t ≤ u) : s.HasStopped u := by
  simp only [hasStopped_iff, isCancelled_iff, isExpired_iff] at h ⊢
  cases h
  case inl h =>
    have ⟨c, hc, ht⟩ := h
    exact .inl ⟨c, hc, Nat.le_trans ht htu⟩
  case inr h =>
    have ⟨d, hd, ht⟩ := h
    exact .inr ⟨d, hd, Nat.le_trans ht htu⟩

-- Nobody waits in a scope that has stopped. Who waits in it when it stops is told at once, or at
-- the next whole millisecond.
structure Rests (s : Scope) (start finish : Instant) : Prop where
  le      : start ≤ finish
  stopped : s.HasStopped start → finish = start
  prompt  : ∀ t, start ≤ t → s.HasStopped t → finish ≤ t.wholeMilli

namespace Rests

theorem refl (t : Instant) : s.Rests t t where
  le           := Nat.le_refl _
  stopped _    := rfl
  prompt u h _ := Nat.le_trans h u.le_wholeMilli

theorem of_not_hasStopped (hle : now ≤ finish) (h : ¬s.HasStopped finish) :
    s.Rests now finish where
  le           := hle
  stopped hs   := absurd (hs.mono hle) h
  prompt t _ hs := by
    have := Nat.lt_of_not_le (mt hs.mono h)
    exact Nat.le_of_lt (Nat.lt_of_lt_of_le this t.le_wholeMilli)

end Rests

-- Who wakes up no later than the switch is turned on, and no later than at the whole millisecond
-- at which the deadline is noticed, does not wait in vain.
theorem Rests.of_le (hn : ¬s.HasStopped now) (hle : now ≤ t)
    (hc : ∀ c, s.cancelledFrom = some c → t ≤ c)
    (hd : ∀ d, s.deadline = some d → t ≤ d.wholeMilli) : s.Rests now t where
  le           := hle
  stopped hs   := absurd hs hn
  prompt u _ h := by
    simp only [hasStopped_iff, isCancelled_iff, isExpired_iff] at h
    cases h
    case inl h =>
      have ⟨c, hs, hu⟩ := h
      exact Nat.le_trans (hc c hs) <| Nat.le_trans hu u.le_wholeMilli
    case inr h =>
      have ⟨d, hs, hu⟩ := h
      exact Nat.le_trans (hd d hs) <| Instant.wholeMilli_mono hu

theorem earlier_eq_some {a b : Option Instant} (h : earlier a b = some t) :
    (a = some t ∨ b = some t) ∧ (∀ c, a = some c → t ≤ c) ∧ (∀ d, b = some d → t ≤ d) := by
  cases a <;> cases b
  case none.none => cases h
  case none.some =>
    cases h
    simp
  case some.none =>
    cases h
    simp
  case some.some c d =>
    obtain rfl : min c d = t := Option.some.inj h
    simp only [Option.some.injEq, forall_eq']
    cases Nat.le_total c d
    case inl h =>
      rw [Nat.min_eq_left h]
      exact ⟨.inl rfl, Nat.le_refl c, h⟩
    case inr h =>
      rw [Nat.min_eq_right h]
      exact ⟨.inr rfl, h, Nat.le_refl d⟩

theorem earlier_eq_none_iff {a b : Option Instant} :
    earlier a b = none ↔ a = none ∧ b = none := by
  cases a <;> cases b <;> simp [earlier]

-- The switch is noticed at once, the deadline at the next whole millisecond.
theorem stopInstant?_eq (hn : ¬s.HasStopped now) :
    s.stopInstant? now = earlier s.cancelledFrom (s.deadline.map Instant.wholeMilli) := by
  simp only [hasStopped_iff, isCancelled_iff, isExpired_iff, not_or, not_exists, not_and] at hn
  have ⟨hc, hd⟩ := hn
  have hc : s.cancelledFrom.map (max now) = s.cancelledFrom := by
    cases h : s.cancelledFrom
    case none => rfl
    case some c => rw [Option.map_some, Nat.max_eq_right (Nat.le_of_not_le (hc c h))]
  have hd : s.deadline.map (fun d => if d ≤ now then now else d.wholeMilli) =
      s.deadline.map Instant.wholeMilli := by
    cases h : s.deadline
    case none => rw [Option.map_none, Option.map_none]
    case some d => rw [Option.map_some, Option.map_some, if_neg (hd d h)]
  rw [stopInstant?, hc, hd]

-- At the instant at which waiting is cut short the scope has stopped.
theorem stopInstant?_eq_some (hn : ¬s.HasStopped now) (h : s.stopInstant? now = some t) :
    s.HasStopped t ∧ s.Rests now t := by
  rw [stopInstant?_eq hn] at h
  have ⟨h, hc, hd⟩ := earlier_eq_some h
  have hs : s.HasStopped t := by
    rw [hasStopped_iff, isCancelled_iff, isExpired_iff]
    cases h
    case inl h => exact .inl ⟨t, h, Nat.le_refl t⟩
    case inr h =>
      have ⟨d, hd, ht⟩ := Option.map_eq_some_iff.mp h
      exact .inr ⟨d, hd, ht ▸ d.le_wholeMilli⟩
  have hle : now ≤ t := Nat.le_of_not_le fun hle => hn (hs.mono hle)
  exact ⟨hs, .of_le hn hle hc fun d h => hd _ (by simp [h])⟩

theorem stopInstant?_eq_none (hn : ¬s.HasStopped now) (h : s.stopInstant? now = none) :
    ¬s.HasStopped t := by
  rw [stopInstant?_eq hn, earlier_eq_none_iff, Option.map_eq_none_iff] at h
  simp [hasStopped_iff, isCancelled_iff, isExpired_iff, h]

section

variable {reason : Stop}

-- Who waits in a scope that has stopped is told so at once.
theorem stopInstant?_of_hasStopped (h : s.HasStopped now) : s.stopInstant? now = some now := by
  rw [hasStopped_iff, isCancelled_iff, isExpired_iff] at h
  rw [stopInstant?]
  cases hc : s.cancelledFrom <;> cases hd : s.deadline
  all_goals simp only [hc, hd] at h
  case none.none => simp at h
  case none.some d =>
    have h : d ≤ now := by simpa using h
    simp [earlier, h]
  case some.none c =>
    have h : c ≤ now := by simpa using h
    simp [earlier, Nat.max_eq_left h]
  case some.some c d =>
    have h : c ≤ now ∨ d ≤ now := by simpa using h
    simp only [Option.map_some, earlier, Option.some.injEq]
    by_cases hle : d ≤ now
    case pos =>
      rw [if_pos hle]
      exact Nat.min_eq_right (Nat.le_max_left now c)
    case neg =>
      rw [if_neg hle, Nat.max_eq_left (h.resolve_right hle)]
      exact Nat.min_eq_left (Nat.le_trans (Nat.le_of_not_le hle) d.le_wholeMilli)

theorem awaitStop_of_stopped? (h : s.stopped? now = some reason) :
    s.awaitStop now = some (reason, now) := by
  have hs : s.HasStopped now := by simp [HasStopped, h]
  have hr : (if s.isCancelled now then .cancelled else .deadlineExceeded) = reason :=
    Option.some.inj (hs.stopped?_eq.symm.trans h)
  rw [awaitStop, stopInstant?_of_hasStopped hs, Option.map_some, hr]

theorem awaitStop_eq_some (h : s.awaitStop now = some (reason, t)) :
    s.stopped? t = some reason ∧ s.Rests now t := by
  cases hs : s.stopped? now
  case some =>
    cases (awaitStop_of_stopped? hs).symm.trans h
    exact ⟨hs, .refl now⟩
  case none =>
    obtain ⟨u, hu, he⟩ := Option.map_eq_some_iff.mp h
    cases he
    have ⟨ht, hr⟩ := stopInstant?_eq_some (not_hasStopped_iff.mpr hs) hu
    exact ⟨ht.stopped?_eq, hr⟩

theorem not_hasStopped_of_awaitStop (h : s.awaitStop now = none) : ¬s.HasStopped t := by
  have h : s.stopInstant? now = none := Option.map_eq_none_iff.mp h
  refine stopInstant?_eq_none (fun hs => ?_) h
  cases (stopInstant?_of_hasStopped hs).symm.trans h

-- Who waits is told of a stop by the next whole millisecond.
theorem exists_awaitStop_eq (h : s.HasStopped t) (hle : now ≤ t) :
    ∃ reason t', s.awaitStop now = some (reason, t') ∧ t' ≤ t.wholeMilli := by
  cases ha : s.awaitStop now
  case none => exact absurd h (not_hasStopped_of_awaitStop ha)
  case some e => exact ⟨e.1, e.2, rfl, (awaitStop_eq_some ha).2.prompt t hle h⟩

theorem eq_finish_of_race_eq_ok (h : s.race now finish = .ok t) : t = finish := by
  unfold race at h
  split at h
  case h_1 => cases h
  case h_2 =>
    split at h
    case h_1 => split at h <;> cases h; rfl
    case h_2 =>
      cases h
      rfl

-- Work is cut short when who waits is told that the scope has stopped. That the scope is looked at
-- before it is begun makes no difference.
theorem race_eq_error_of_awaitStop (h : s.awaitStop now = some (reason, t)) (hle : t ≤ finish) :
    s.race now finish = .error (reason, t) := by
  unfold race
  split
  case h_1 hs =>
    rw [awaitStop_of_stopped? hs] at h
    cases h
    rfl
  case h_2 => simp only [h, if_neg (Nat.not_lt_of_le hle)]

theorem race_eq_ok_of_awaitStop (hle : now ≤ finish)
    (h : ∀ reason t, s.awaitStop now = some (reason, t) → finish < t) :
    s.race now finish = .ok finish := by
  unfold race
  split
  case h_1 hs => exact absurd (h _ _ (awaitStop_of_stopped? hs)) (Nat.not_lt_of_le hle)
  case h_2 =>
    split
    case h_1 ha => rw [if_pos (h _ _ ha)]
    case h_2 => rfl

theorem race_eq_error_iff (hle : now ≤ finish) :
    s.race now finish = .error (reason, t) ↔ s.awaitStop now = some (reason, t) ∧ t ≤ finish := by
  constructor
  case mpr => exact fun ⟨ha, ht⟩ => race_eq_error_of_awaitStop ha ht
  case mp =>
    intro h
    cases ha : s.awaitStop now
    case none =>
      have hr : s.race now finish = .ok finish := race_eq_ok_of_awaitStop hle (by simp [ha])
      cases h.symm.trans hr
    case some e =>
      by_cases ht : e.2 ≤ finish
      case pos =>
        cases h.symm.trans (race_eq_error_of_awaitStop ha ht)
        exact ⟨rfl, ht⟩
      case neg =>
        have hr : s.race now finish = .ok finish := by
          refine race_eq_ok_of_awaitStop hle fun _ _ hu => ?_
          cases ha.symm.trans hu
          exact Nat.lt_of_not_le ht
        cases h.symm.trans hr

-- Work that is done before the scope stops is not noticed to be late.
theorem race_of_not_hasStopped (hle : now ≤ finish) (h : ¬s.HasStopped finish) :
    s.race now finish = .ok finish := by
  refine race_eq_ok_of_awaitStop hle fun reason t ha => Nat.lt_of_not_le fun ht => h ?_
  exact (hasStopped_of_eq_some (awaitStop_eq_some ha).1).1.mono ht

end

-- How waiting until `finish` goes: either the scope has not stopped by then, or the waiting is cut
-- short when it stops.
inductive Outcome (s : Scope) (now finish : Instant) : Except (Stop × Instant) Instant → Prop
  | passed :
    ¬s.HasStopped finish → Outcome s now finish (.ok finish)
  | cut {reason t} :
    (s.stopped? t = some reason) → (t ≤ finish) → (s.Rests now t) →
    Outcome s now finish (.error (reason, t))

theorem race_outcome (hle : now ≤ finish) (hf : finish.wholeMilli = finish) :
    s.Outcome now finish (s.race now finish) := by
  cases h : s.race now finish
  case error e =>
    obtain ⟨ha, ht⟩ := (race_eq_error_iff hle).mp h
    obtain ⟨hs, hr⟩ := awaitStop_eq_some ha
    exact .cut hs ht hr
  case ok t =>
    obtain rfl : t = finish := eq_finish_of_race_eq_ok h
    refine .passed fun hs => ?_
    obtain ⟨reason, u, ha, hu⟩ := exists_awaitStop_eq hs hle
    have hr : s.race now t = .error (reason, u) := race_eq_error_of_awaitStop ha (hf ▸ hu)
    cases h.symm.trans hr

end Scope

namespace Retry

variable {s : Scope} {now t : Instant} {backoff : Time.Duration} {reason : Stop}

-- When waiting is over that nothing cuts short.
def waitEnd (now : Instant) (backoff : Time.Duration) : Instant :=
  if backoff.isZero then now else now.sleepEnd backoff

theorem le_waitEnd : now ≤ waitEnd now backoff := by
  unfold waitEnd
  split
  case isTrue => exact Nat.le_refl now
  case isFalse => exact now.le_sleepEnd backoff

-- From a whole millisecond on, a wait ends at the first one that comes when its time has passed.
theorem waitEnd_eq (whole : now.IsWhole) (told : (now + backoff.nanos).CanBeTold) :
    waitEnd now backoff = Instant.wholeMilli (now + backoff.nanos) := by
  unfold waitEnd
  split
  case isTrue hz =>
    have hz : backoff.nanos = 0 := by simpa [Time.Duration.isZero] using hz
    rw [hz]
    exact whole.symm
  case isFalse => exact if_pos told

-- A wait of no length obeys the same law as any other.
theorem wait_outcome : s.Outcome now (waitEnd now backoff) (wait s now backoff) := by
  unfold wait waitEnd
  split
  case isTrue =>
    split
    case h_1 h => exact .cut h (Nat.le_refl now) (.refl now)
    case h_2 h => exact .passed (Scope.not_hasStopped_iff.mpr h)
  case isFalse =>
    exact Scope.race_outcome (now.le_sleepEnd backoff) (now.wholeMilli_sleepEnd backoff)

theorem wait_eq_ok (h : wait s now backoff = .ok t) :
    t = waitEnd now backoff ∧ ¬s.HasStopped t ∧ s.Rests now t := by
  have o : s.Outcome now (waitEnd now backoff) (wait s now backoff) := wait_outcome
  rw [h] at o
  cases o
  case passed hn => exact ⟨rfl, hn, .of_not_hasStopped le_waitEnd hn⟩

theorem wait_eq_error (h : wait s now backoff = .error (reason, t)) :
    t ≤ waitEnd now backoff ∧ s.stopped? t = some reason ∧ s.Rests now t := by
  have o : s.Outcome now (waitEnd now backoff) (wait s now backoff) := wait_outcome
  rw [h] at o
  cases o
  case cut hle hr hs => exact ⟨hle, hs, hr⟩

end Retry
end Outbox

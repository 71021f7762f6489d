import Outbox.Proofs.Publisher.Timeline
import Outbox.Proofs.Retry.Backoff
import Outbox.Proofs.Store.Effect
/-!
When attempts are made if nothing stops them and calls take no time: the first one for a message as
soon as the message before it is done, and each further one behind a wait that is longer by one unit
than the wait before it.
-/

namespace Outbox

open Executor (Call Reply)
open Store (Memory)

namespace Instant

-- What a clock shows behind some sleeps that is moved by sleepers alone.
def afterSleeps (start : Instant) (sleeps : List Time.Duration) : Instant :=
  sleeps.foldl sleepEnd start

theorem afterSleeps_append (start : Instant) (sleeps later : List Time.Duration) :
    start.afterSleeps (sleeps ++ later) = (start.afterSleeps sleeps).afterSleeps later :=
  List.foldl_append

theorem IsWhole.afterSleeps {start : Instant} (h : start.IsWhole) (sleeps : List Time.Duration) :
    (start.afterSleeps sleeps).IsWhole := by
  induction sleeps generalizing start
  case nil => exact h
  case cons d sleeps hi => exact hi (wholeMilli_sleepEnd start d)

theorem isWhole_zero : IsWhole 0 := by
  rw [IsWhole, wholeMilli]
  decide

end Instant

namespace Retry.Policy

variable {p : Policy} {t : Instant} {n : Nat}

-- The instant of the attempt behind `n` failed ones, if the first one is made at `t`.
def attemptAt (p : Policy) (t : Instant) : Nat → Instant
  | 0     => t
  | n + 1 => waitEnd (p.attemptAt t n) (p.backoffAfter (n + 1))

-- What is waited in all behind `n` failed attempts: one unit behind the first one, two units behind
-- the second one and so on, each time rounded up to whole milliseconds.
def waited (p : Policy) : Nat → Nat
  | 0     => 0
  | n + 1 => p.waited n + Instant.wholeMilli ((n + 1) * p.unit.nanos)

theorem isZero_backoffAfter (h : p.unit.isZero) : (p.backoffAfter n).isZero := by
  have h : p.unit.nanos = 0 := by simpa [Time.Duration.isZero] using h
  simp [Time.Duration.isZero, nanos_backoffAfter_eq_min, h]

-- No time passes if the unit has no length.
theorem attemptAt_of_isZero (h : p.unit.isZero) : p.attemptAt t n = t := by
  induction n
  case zero => rfl
  case succ n hi => rw [attemptAt, waitEnd, if_pos (isZero_backoffAfter h), hi]

theorem nanos_backoffAfter (h : (t + n * p.unit.nanos).CanBeTold) :
    (p.backoffAfter n).nanos = n * p.unit.nanos := by
  have hl : Time.Duration.longest.nanos = 18446744073709551615999999999 := rfl
  have hs : Time.nanosPerSecond = 1000000000 := rfl
  have hg : Instant.greatestSeconds = 9223372036854775807 := rfl
  simp only [Instant.CanBeTold, hs, hg] at h
  rw [nanos_backoffAfter_eq_min, hl]
  generalize n * p.unit.nanos = d at h
  change @LE.le Nat _ ((t + d) / 1000000000) _ at h
  exact Nat.min_eq_left (by omega)

-- From a whole millisecond on, as many whole milliseconds are waited as the backoff takes.
theorem waitEnd_of_isWhole (ht : t.IsWhole) (h : (t + n * p.unit.nanos).CanBeTold) :
    waitEnd t (p.backoffAfter n) = t + Instant.wholeMilli (n * p.unit.nanos) := by
  have hn : (p.backoffAfter n).nanos = n * p.unit.nanos := nanos_backoffAfter h
  rw [waitEnd_eq ht (hn ▸ h), hn, ht.wholeMilli_add]

-- Between attempts the clock is moved by sleeping.
theorem exists_attemptAt_eq (p : Policy) (t : Instant) (n : Nat) :
    ∃ sleeps, p.attemptAt t n = t.afterSleeps sleeps := by
  induction n
  case zero => exact ⟨[], rfl⟩
  case succ n hi =>
    obtain ⟨sleeps, hi⟩ := hi
    unfold attemptAt waitEnd
    split
    case isTrue => exact ⟨sleeps, hi⟩
    case isFalse =>
      exact ⟨sleeps ++ [p.backoffAfter (n + 1)], by rw [Instant.afterSleeps_append, ← hi]; rfl⟩

theorem isWhole_attemptAt (ht : t.IsWhole) : (p.attemptAt t n).IsWhole := by
  obtain ⟨sleeps, h⟩ := p.exists_attemptAt_eq t n
  rw [h]
  exact ht.afterSleeps sleeps

theorem attemptAt_eq (ht : t.IsWhole)
    (h : ∀ k < n, (p.attemptAt t k + (k + 1) * p.unit.nanos).CanBeTold) :
    p.attemptAt t n = t + p.waited n := by
  induction n
  case zero => rfl
  case succ n hi =>
    have hi := hi fun k hk => h k (Nat.lt_succ_of_lt hk)
    rw [attemptAt, waitEnd_of_isWhole (isWhole_attemptAt ht) (h n (Nat.lt_succ_self n)), hi, waited,
      Nat.add_assoc]

end Retry.Policy

namespace Scope.Endless

variable {s : Scope} {now : Instant} {call : Call} {reply : Reply}

-- A scope that was cancelled has an end.
theorem of_cancel (h : (s.cancel now).Endless) : s.Endless := by
  intro t
  rw [← not_hasStopped_iff, hasStopped_iff, isCancelled_iff, isExpired_iff]
  have hd : s.deadline = none := h.deadline_eq_none
  have hc := h.cancelledFrom_eq_none
  cases cancelledFrom_cancel s now
  case inl he => simp [← he, hc, hd]
  case inr he => cases hc.symm.trans he

theorem of_scopeAfter (h : (call.scopeAfter reply).Endless) : call.scope.Endless := by
  unfold Call.scopeAfter at h
  split at h
  case isTrue => exact h.of_cancel
  case isFalse => exact h

end Scope.Endless

namespace Publisher

variable {σ : Type} {c : Config} {ex : Executor σ} {s : Situation σ} {r : Run σ} {m : Message}
  {ms : List Message} {calls : List (Call × Reply)} {here : Scope × Instant} {t : Instant}

theorem standing_of_getLast? {e : Call × Reply} (h : calls.getLast? = some e) :
    standing here calls = (e.1.scopeAfter e.2, e.1.now + e.2.elapsed) := by
  obtain ⟨before, rfl⟩ := List.getLast?_eq_some_iff.mp h
  rw [standing_append]
  rfl

theorem Attempt.endless {s₁ s₂ : Situation σ} {reply : Reply} (a : Attempt c ex m s₁ reply s₂)
    (h : s₂.scope.Endless) : s₁.scope.Endless :=
  Scope.Endless.of_scopeAfter (a.scope ▸ h)

theorem Insertion.endless {k : Nat} (i : Insertion c ex m k s r) (h : r.final.scope.Endless) :
    s.scope.Endless := by
  induction i
  case stopped => exact h
  case again a _ _ _ _ _ hi => exact a.endless (hi h)
  case written a _ => exact a.endless h
  case interrupted a _ => exact a.endless h
  case exhausted a _ _ _ => exact a.endless h
  case cut a _ _ _ _ => exact a.endless h

theorem Course.endless (h : Course c ex ms s r) (he : r.final.scope.Endless) : s.scope.Endless := by
  induction h
  case done => exact he
  case failed i _ => exact i.endless he
  case next i _ _ hi => exact i.endless (hi he)

-- The calls for a message from attempt number `k + 1` on, if the first attempt is made at `t` and
-- the calls take no time.
theorem Insertion.schedule {k n : Nat} (i : Insertion c ex m n s r) (hn : n = k + 1)
    (ht : s.now = c.policy.attemptAt t k) (hs : r.final.scope.Endless)
    (he : ∀ e ∈ r.calls, e.2.elapsed = 0) :
    (∀ j e, r.calls[j]? = some e → e.1.now = c.policy.attemptAt t (k + j)) ∧
      ∃ e, r.calls.getLast? = some e ∧ r.final.now = e.1.now := by
  induction i generalizing k
  case stopped h => cases (hs _).symm.trans h
  case cut hw => exact absurd hw hs.wait_ne_error
  case again s₁ s₂ reply _ t' r a _ _ _ hw i hi =>
    simp only [Run.calls_prepend, List.cons_append, List.nil_append, List.forall_mem_cons] at he
    have ht' : t' = c.policy.attemptAt t (k + 1) := by
      obtain ⟨ht', _⟩ := Retry.wait_eq_ok hw
      rw [ht', a.now, he.1, hn, ht]
      rfl
    obtain ⟨hc, e, hl, hf⟩ := hi (congrArg (· + 1) hn) ht' hs he.2
    refine ⟨fun j e' hj => ?_, e, by simp [List.getLast?_cons, hl], hf⟩
    cases j
    case zero =>
      cases hj
      exact ht
    case succ j =>
      rw [← Nat.succ_add_eq_add_succ]
      exact hc j e' hj
  all_goals
    rename Attempt .. => a
    refine ⟨fun j e hj => ?_, _, rfl, ?_⟩
    case refine_1 =>
      cases j
      case zero =>
        cases hj
        exact ht
      case succ => simp at hj
    case refine_2 => rw [a.now, he _ (List.mem_singleton_self _), Nat.add_zero]; rfl

-- The instant at which the calls for the messages before number `j` are over.
def begun (here : Scope × Instant) (calls : List (Call × Reply)) (j : Nat) : Instant :=
  (standing here ((byMessage calls).take j).flatten).2

-- With the calls for a message, those for the messages up to it are over.
theorem begun_succ {j : Nat} {run : List (Call × Reply)} {e : Call × Reply}
    (hr : (byMessage calls)[j]? = some run) (he : run.getLast? = some e) :
    begun here calls (j + 1) = e.1.now + e.2.elapsed := by
  have ht : (byMessage calls).take (j + 1) = (byMessage calls).take j ++ [run] := by
    simp [List.take_add_one, hr]
  have hl : ((byMessage calls).take (j + 1)).flatten.getLast? = some e := by simp [ht, he]
  rw [begun, standing_of_getLast? hl]

theorem begun_length : begun here calls (byMessage calls).length = (standing here calls).2 := by
  rw [begun, List.take_length, byMessage, List.flatten_splitBy]

theorem Course.schedule (h : Course c ex ms s r) (hs : r.final.scope.Endless)
    (he : ∀ e ∈ r.calls, e.2.elapsed = 0) :
    (∀ j run, (byMessage r.calls)[j]? = some run → ∀ k e, run[k]? = some e →
      e.1.now = c.policy.attemptAt (begun (s.scope, s.now) r.calls j) k) ∧
    r.final.now = (standing (s.scope, s.now) r.calls).2 := by
  induction h
  case done => exact ⟨by simp [byMessage], rfl⟩
  case failed s r _ i hr =>
    obtain ⟨hc, e, hl, hf⟩ := i.schedule rfl rfl hs he
    have hn : r.calls ≠ [] := List.ne_nil_of_mem (List.mem_of_getLast? hl)
    have hb : byMessage r.calls = [r.calls] :=
      byMessage_of_forall_dropLast i.isSuccess_of_mem_dropLast hn
    refine ⟨fun j run hj k e hk => ?_, ?_⟩
    case refine_1 =>
      rw [hb] at hj
      cases j
      case zero =>
        cases hj
        rw [hc k e hk, Nat.zero_add]
        rfl
      case succ => simp at hj
    case refine_2 =>
      rw [standing_of_getLast? hl, he e (List.mem_of_getLast? hl), hf]
      rfl
  case next s r r' i hr h hi =>
    simp only [Run.calls_prepend, List.forall_mem_append] at he
    obtain ⟨hc, _⟩ := i.schedule rfl rfl (h.endless hs) he.1
    obtain ⟨hi, hf⟩ := hi hs he.2
    have hd : standing (s.scope, s.now) r.calls = (r.final.scope, r.final.now) :=
      i.standing_calls hr
    have hb : byMessage (r.calls ++ r'.calls) = r.calls :: byMessage r'.calls :=
      byMessage_append i.isSuccess_of_mem_dropLast (i.getLast?_isSuccess hr)
    simp only [Run.calls_prepend, hb]
    refine ⟨fun j run hj k e hk => ?_, ?_⟩
    case refine_1 =>
      cases j
      case zero =>
        cases hj
        rw [hc k e hk, Nat.zero_add]
        rfl
      case succ j =>
        rw [hi j run hj k e hk, begun, begun, hb, List.take_succ_cons, List.flatten_cons,
          standing_append, hd]
    case refine_2 => rw [standing_append, hd]; exact hf

-- The calls for each message are made according to `start`, where `start t n` is the instant of the
-- attempt behind `n` failed ones if the first one is made at `t`.
structure Run.OnSchedule (start : Instant → Nat → Instant) (c : Config) (ms : List Message)
    (here : Scope × Instant) (r : Run σ) : Prop where
  -- A message fails `f` times before what becomes of it is settled.
  calls : ∀ j run, (byMessage r.calls)[j]? = some run →
    ∃ m f, ms[j]? = some m ∧ Tries c m run ∧ run.length = f + 1 ∧
      (∀ k e, run[k]? = some e → e.1.now = start (begun here r.calls j) k) ∧
      begun here r.calls (j + 1) = start (begun here r.calls j) f
  exhausted : ∀ id retries attempts source,
    r.result = .error (.retriesExhausted id retries attempts source) →
    ∃ j, (byMessage r.calls).length = j + 1 ∧
      r.final.now = start (begun here r.calls j) (c.policy.maxAttempts - 1)
  final : r.final.now = begun here r.calls (byMessage r.calls).length

-- Every wait between two calls for a message ends at an instant that can be told.
def Run.CanBeTold (p : Retry.Policy) (r : Run σ) : Prop :=
  ∀ run ∈ byMessage r.calls, ∀ k e, run[k]? = some e → k + 1 < run.length →
    (e.1.now + (k + 1) * p.unit.nanos).CanBeTold

theorem publish_schedule (hs : (publish c ex ms s).final.scope.Endless)
    (he : ∀ e ∈ (publish c ex ms s).calls, e.2.elapsed = 0) :
    (∀ j run, (byMessage (publish c ex ms s).calls)[j]? = some run → ∀ k e, run[k]? = some e →
      e.1.now =
        c.policy.attemptAt (begun (s.scope, s.now) (publish c ex ms s).calls j) k) ∧
    (publish c ex ms s).final.now = (standing (s.scope, s.now) (publish c ex ms s).calls).2 := by
  by_cases h : Refused ms
  case pos =>
    obtain ⟨_, _, hi⟩ := refused_iff.mp h
    rw [publish_of_firstInvalid hi]
    exact ⟨by simp [byMessage], rfl⟩
  case neg =>
    obtain ⟨r, hc, _, hcs, hf⟩ := publish_course c ex s (not_refused_iff.mp h)
    rw [hcs] at he ⊢
    rw [hf] at hs ⊢
    exact hc.schedule hs he

-- It is enough to know when the calls are made: behind the last one nothing is waited.
theorem publish_onSchedule {start : Instant → Nat → Instant}
    (hs : (publish c ex ms s).final.scope.Endless)
    (he : ∀ e ∈ (publish c ex ms s).calls, e.2.elapsed = 0)
    (h : ∀ j run, (byMessage (publish c ex ms s).calls)[j]? = some run → ∀ k e,
      run[k]? = some e →
        e.1.now = start (begun (s.scope, s.now) (publish c ex ms s).calls j) k) :
    (publish c ex ms s).OnSchedule start c ms (s.scope, s.now) := by
  have hf : (publish c ex ms s).final.now = begun (s.scope, s.now) (publish c ex ms s).calls _ :=
    (publish_schedule hs he).2.trans begun_length.symm
  obtain ⟨runs, hr, ht, _⟩ := publish_trace c ex ms s
  have hb : byMessage (publish c ex ms s).calls = runs := hr ▸ ht.byMessage_flatten
  have calls {j run} (hj : (byMessage (publish c ex ms s).calls)[j]? = some run) :
      ∃ m f, ms[j]? = some m ∧ Tries c m run ∧ run.length = f + 1 ∧
        begun (s.scope, s.now) (publish c ex ms s).calls (j + 1) =
          start (begun (s.scope, s.now) (publish c ex ms s).calls j) f := by
    have hj' := hj
    rw [hb] at hj'
    obtain ⟨hl, hj'⟩ := List.getElem?_eq_some_iff.mp hj'
    have hm : j < ms.length := Nat.lt_of_lt_of_le hl ht.length_le
    have hy : Tries c ms[j] run := hj' ▸ ht.tries j hl hm
    obtain ⟨f, hf⟩ := Nat.exists_eq_add_one_of_ne_zero (mt List.length_eq_zero_iff.mp hy.ne_nil)
    have hk : run[f]? = some run[f] := List.getElem?_eq_getElem (by omega)
    have hlast : run.getLast? = some run[f] := by simp [List.getLast?_eq_getElem?, hf]
    have hmem : run[f] ∈ (publish c ex ms s).calls := by
      rw [hr]
      exact List.mem_flatten.mpr ⟨run, hj' ▸ List.getElem_mem hl, List.getElem_mem _⟩
    refine ⟨ms[j], f, List.getElem?_eq_getElem hm, hy, hf, ?_⟩
    rw [begun_succ hj hlast, he _ hmem, Nat.add_zero]
    exact h j run hj f _ hk
  refine ⟨fun j run hj => ?_, fun id retries attempts source hx => ?_, hf⟩
  case refine_1 =>
    obtain ⟨m, f, hm, hy, hf, hn⟩ := calls hj
    exact ⟨m, f, hm, hy, hf, h j run hj, hn⟩
  case refine_2 =>
    obtain ⟨j, _, _, hu, _⟩ := publish_retriesExhausted_iff.mp hx
    have hj : j < (byMessage (publish c ex ms s).calls).length := by simp [hu.last]
    obtain ⟨_, f, _, _, hl, hn⟩ := calls (List.getElem?_eq_getElem hj)
    have hl' := hu.length_eq
    rw [callsFor_of_lt hj, hl] at hl'
    refine ⟨j, hu.last, ?_⟩
    rw [hf, hu.last, hn, ← hl', Nat.add_sub_cancel]

-- What a schedule keeps of the instant at which it starts holds whenever a message is begun.
theorem Run.OnSchedule.forall_begun {start : Instant → Nat → Instant} {p : Instant → Prop}
    (o : r.OnSchedule start c ms here) (h : p here.2) (hp : ∀ t n, p t → p (start t n)) {j : Nat}
    (hj : j ≤ (byMessage r.calls).length) : p (begun here r.calls j) := by
  induction j
  case zero => exact h
  case succ j hi =>
    obtain ⟨_, f, _, _, _, _, hb⟩ := o.calls j _ (List.getElem?_eq_getElem hj)
    rw [hb]
    exact hp _ f (hi (Nat.le_of_succ_le hj))

theorem Run.OnSchedule.now_eq {j k : Nat} {run : List (Call × Reply)} {e : Call × Reply}
    (o : r.OnSchedule c.policy.attemptAt c ms here) (h : here.2.IsWhole)
    (ht : r.CanBeTold c.policy) (hj : (byMessage r.calls)[j]? = some run)
    (hk : run[k]? = some e) : e.1.now = begun here r.calls j + c.policy.waited k := by
  obtain ⟨hl, hr⟩ := List.getElem?_eq_some_iff.mp hj
  obtain ⟨hkl, _⟩ := List.getElem?_eq_some_iff.mp hk
  obtain ⟨_, _, _, _, _, hn, _⟩ := o.calls j run hj
  have hw : (begun here r.calls j).IsWhole :=
    o.forall_begun h (fun _ _ => Retry.Policy.isWhole_attemptAt) (Nat.le_of_lt hl)
  rw [hn k e hk]
  refine Retry.Policy.attemptAt_eq hw fun i hi => ?_
  have hil : run[i]? = some run[i] := List.getElem?_eq_getElem (Nat.lt_trans hi hkl)
  rw [← hn i _ hil]
  exact ht run (hr ▸ List.getElem_mem hl) i _ hil (Nat.lt_of_le_of_lt hi hkl)

-- Whatever the clock shows at first, each attempt behind a failed one is made when the wait between
-- them is over.
theorem publish_onSchedule_attemptAt (hs : (publish c ex ms s).final.scope.Endless)
    (he : ∀ e ∈ (publish c ex ms s).calls, e.2.elapsed = 0) :
    (publish c ex ms s).OnSchedule c.policy.attemptAt c ms (s.scope, s.now) :=
  publish_onSchedule hs he (publish_schedule hs he).1

-- Without a backoff no time passes.
theorem Run.OnSchedule.eq_of_isZero (o : r.OnSchedule c.policy.attemptAt c ms here)
    (hz : c.policy.unit.isZero) : (∀ e ∈ r.calls, e.1.now = here.2) ∧ r.final.now = here.2 := by
  have hb {j : Nat} (hj : j ≤ (byMessage r.calls).length) : begun here r.calls j = here.2 :=
    o.forall_begun (p := (· = here.2)) rfl
      (fun _ _ h => (Retry.Policy.attemptAt_of_isZero hz).trans h) hj
  refine ⟨fun e he => ?_, o.final.trans (hb (Nat.le_refl _))⟩
  rw [← List.flatten_splitBy (fun e _ => !e.2.isSuccess) r.calls] at he
  obtain ⟨run, hr, he⟩ := List.mem_flatten.mp he
  obtain ⟨j, hj, hr⟩ := List.mem_iff_getElem.mp hr
  obtain ⟨k, hk, he⟩ := List.mem_iff_getElem.mp he
  obtain ⟨_, _, _, _, _, hn, _⟩ := o.calls j run (List.getElem?_eq_some_iff.mpr ⟨hj, hr⟩)
  rw [hn k e (List.getElem?_eq_some_iff.mpr ⟨hk, he⟩), Retry.Policy.attemptAt_of_isZero hz,
    hb (Nat.le_of_lt hj)]

theorem Run.OnSchedule.exists_now_eq (o : r.OnSchedule c.policy.attemptAt c ms here) :
    ∃ sleeps, r.final.now = here.2.afterSleeps sleeps := by
  rw [o.final]
  refine o.forall_begun (p := fun t => ∃ sleeps, t = here.2.afterSleeps sleeps) ⟨[], rfl⟩
    (fun t n h => ?_) (Nat.le_refl _)
  obtain ⟨sleeps, rfl⟩ := h
  obtain ⟨later, h⟩ := c.policy.exists_attemptAt_eq (here.2.afterSleeps sleeps) n
  exact ⟨sleeps ++ later, h.trans (Instant.afterSleeps_append ..).symm⟩

end Publisher
end Outbox

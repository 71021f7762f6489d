import Outbox.Proofs.Driving
/-!
One law for all waits between attempts. Whoever waits is told that the scope has stopped as soon as
it is noticed: when the switch is turned on, or when a timer goes off, at a whole millisecond. A
wait of no length, which only looks at the scope, ends as a sleep of no length would.
-/

namespace Outbox

namespace Scope

variable {s : Scope} {now t u : Instant} {finish : Option Instant} {reason : Stop} {look : Look}
  {looks : List Look} {watched : Bool}

-- Who waits wakes up when the switch is turned on and when a timer goes off.
structure Noticed (s : Scope) (t : Instant) : Prop where
  stopped : s.HasStopped t
  awake   : t.IsWhole ∨ s.cancelledFrom = some t

-- The first instant from `now` on at which it is noticed that the scope has stopped.
structure FirstNoticed (s : Scope) (now t : Instant) : Prop where
  le      : now ≤ t
  noticed : s.Noticed t
  first   : ∀ u, now ≤ u → u < t → ¬s.Noticed u

theorem FirstNoticed.refl (whole : now.IsWhole) (h : s.HasStopped now) :
    s.FirstNoticed now now where
  le            := Nat.le_refl now
  noticed       := ⟨h, .inl whole⟩
  first _ hle h := absurd h (Nat.not_lt_of_le hle)

theorem FirstNoticed.eq (h : s.FirstNoticed now t) (h' : s.FirstNoticed now u) : t = u :=
  Nat.le_antisymm (Nat.le_of_not_lt fun hlt => h.first u h'.le hlt h'.noticed)
    (Nat.le_of_not_lt fun hlt => h'.first t h.le hlt h.noticed)

theorem firstNoticed_of_stopInstant? (hn : ¬s.HasStopped now) (h : s.stopInstant? now = some t) :
    s.FirstNoticed now t := by
  have ⟨hs, hr⟩ := stopInstant?_eq_some hn h
  rw [stopInstant?_eq hn] at h
  have ⟨ht, hc, _⟩ := earlier_eq_some h
  refine ⟨hr.le, ⟨hs, ?awake⟩, fun u hle hlt hu => ?first⟩
  case awake =>
    cases ht
    case inl ht => exact .inr ht
    case inr ht =>
      obtain ⟨d, -, rfl⟩ := Option.map_eq_some_iff.mp ht
      exact .inl d.wholeMilli_wholeMilli
  case first =>
    have hu' : u.IsWhole := hu.awake.resolve_right fun hu => Nat.not_lt_of_le (hc u hu) hlt
    have hle : t ≤ u.wholeMilli := hr.prompt u hle hu.stopped
    rw [hu'] at hle
    exact Nat.not_lt_of_le hle hlt

theorem firstNoticed_of_awaitStop (whole : now.IsWhole) (h : s.awaitStop now = some (reason, t)) :
    s.FirstNoticed now t := by
  cases hs : s.stopped? now
  case some =>
    cases (awaitStop_of_stopped? hs).symm.trans h
    exact .refl whole (hasStopped_of_eq_some hs).1
  case none =>
    obtain ⟨u, hu, he⟩ := Option.map_eq_some_iff.mp h
    cases he
    exact firstNoticed_of_stopInstant? (not_hasStopped_iff.mpr hs) hu

-- Work that is done at once is done unless the scope has stopped.
theorem race_self (s : Scope) (now : Instant) :
    s.race now now = (s.stopped? now).elim (.ok now) (.error ⟨·, now⟩) := by
  cases h : s.stopped? now
  case some => exact race_eq_error_of_awaitStop (awaitStop_of_stopped? h) (Nat.le_refl now)
  case none => exact race_of_not_hasStopped (Nat.le_refl now) (not_hasStopped_iff.mpr h)

-- The scope as a sleeper sees it, to whom the deadline comes at a whole millisecond.
def rounded (s : Scope) : Scope :=
  { s with deadline := s.deadline.map Instant.wholeMilli }

theorem cancelledFrom_rounded (s : Scope) : s.rounded.cancelledFrom = s.cancelledFrom := rfl

theorem deadline_rounded (s : Scope) : s.rounded.deadline = s.deadline.map Instant.wholeMilli := rfl

theorem isWhole_of_mem_rounded {d : Instant} (h : d ∈ s.rounded.deadline) : d.IsWhole := by
  obtain ⟨e, -, rfl⟩ := Option.map_eq_some_iff.mp h
  exact e.wholeMilli_wholeMilli

theorem HasStopped.of_rounded (h : s.rounded.HasStopped t) : s.HasStopped t := by
  simp only [hasStopped_iff, isExpired_iff] at h ⊢
  refine h.imp_right fun ⟨d, hd, hle⟩ => ?_
  obtain ⟨e, he, rfl⟩ := Option.map_eq_some_iff.mp hd
  exact ⟨e, he, Nat.le_trans e.le_wholeMilli hle⟩

theorem stopAt?_rounded : s.rounded.stopAt? watched look = s.stopAt? watched look := by
  have hd : s.rounded.deadline.any (·.wholeMilli ≤ look.time) =
      s.deadline.any (·.wholeMilli ≤ look.time) := by
    cases h : s.deadline
    case none => rw [rounded, h, Option.map_none]
    case some d =>
      rw [rounded, h, Option.map_some, Option.any_some, Option.any_some, d.wholeMilli_wholeMilli]
  rw [stopAt?, hd]
  rfl

theorem driveOn_rounded :
    s.rounded.driveOn finish watched looks = s.driveOn finish watched looks := by
  induction looks generalizing watched
  case nil => rfl
  case cons l ls hi => simp only [driveOn, stopAt?_rounded, hi]

theorem stopInstant?_rounded (hn : ¬s.HasStopped now) :
    s.rounded.stopInstant? now = s.stopInstant? now := by
  have hw : Instant.wholeMilli ∘ Instant.wholeMilli = Instant.wholeMilli := by
    funext t
    rw [Function.comp_apply, t.wholeMilli_wholeMilli]
  rw [stopInstant?_eq (mt HasStopped.of_rounded hn), stopInstant?_eq hn, cancelledFrom_rounded,
    deadline_rounded, Option.map_map, hw]

theorem run_rounded (hn : ¬s.HasStopped now) : s.rounded.run now finish = s.run now finish := by
  have hs : s.rounded.stopped? now = s.stopped? now := by
    rw [not_hasStopped_iff.mp hn, not_hasStopped_iff.mp (mt HasStopped.of_rounded hn)]
  have ha : s.rounded.awaitStop now = s.awaitStop now := by
    rw [awaitStop, stopInstant?_rounded hn]
    rfl
  cases finish
  all_goals simp only [run, race, hs, ha]

-- To miss nothing in the one is to miss nothing in the other.
theorem Attentive.rounded (a : s.Attentive now finish looks) (hn : ¬s.HasStopped now) :
    s.rounded.Attentive now finish looks where
  sorted    := a.sorted
  first     := a.first
  seen      := a.seen
  abandoned := a.abandoned
  cancelled := a.cancelled
  finished  := a.finished
  expired d hd hlt := by
    obtain ⟨e, he, rfl⟩ := Option.map_eq_some_iff.mp hd
    have hlt : now < e := Nat.lt_of_not_le fun hle =>
      hn <| hasStopped_iff.mpr <| .inr <| isExpired_iff.mpr ⟨e, he, hle⟩
    rw [e.wholeMilli_wholeMilli]
    exact a.expired e he hlt

-- What comes of looking, also if the deadline is within a millisecond.
theorem Attentive.outcome (a : s.Attentive now finish looks)
    (apart : ∀ c ∈ s.cancelledFrom, now < c →
      s.deadline.map Instant.wholeMilli ≠ some c ∧ finish ≠ some c) :
    (s.drive now finish looks).outcome = s.run now finish := by
  cases h : s.stopped? now
  case some => rw [drive_of_stopped? h, run_of_stopped? h]
  case none =>
    have hn : ¬s.HasStopped now := not_hasStopped_iff.mpr h
    have hr : ¬s.rounded.HasStopped now := mt HasStopped.of_rounded hn
    have hd : s.rounded.drive now finish looks = s.drive now finish looks := by
      rw [drive, not_hasStopped_iff.mp hr, drive, h]
      exact driveOn_rounded
    rw [← hd, ← run_rounded hn]
    exact drive_outcome (a.rounded hn) (fun _ => isWhole_of_mem_rounded) apart

end Scope

namespace Retry

variable {s : Scope} {now t : Instant} {backoff : Time.Duration} {reason : Stop}

-- Not to sleep is to sleep for no time.
theorem wait_eq_race : wait s now backoff = s.race now (waitEnd now backoff) := by
  rw [wait, waitEnd]
  split
  case isTrue =>
    rw [Scope.race_self]
    cases s.stopped? now <;> rfl
  case isFalse => rfl

theorem wait_eq_ok_iff :
    wait s now backoff = .ok t ↔ t = waitEnd now backoff ∧ ∀ u ≤ t, ¬s.HasStopped u := by
  have o : s.Outcome now (waitEnd now backoff) (wait s now backoff) := wait_outcome
  constructor
  case mp =>
    intro h
    obtain ⟨rfl, hn, -⟩ := wait_eq_ok h
    exact ⟨rfl, fun u hle hs => hn (hs.mono hle)⟩
  case mpr =>
    rintro ⟨rfl, hn⟩
    generalize wait s now backoff = r at o ⊢
    cases o
    case passed => rfl
    case cut hr hle _ => exact absurd (Scope.hasStopped_of_eq_some hr).1 (hn _ hle)

theorem exists_wait_eq_error_iff :
    (∃ e, wait s now backoff = .error e) ↔ ∃ t ≤ waitEnd now backoff, s.HasStopped t := by
  constructor
  case mp =>
    rintro ⟨⟨reason, t⟩, h⟩
    have ⟨hle, hr, _⟩ := wait_eq_error h
    exact ⟨t, hle, (Scope.hasStopped_of_eq_some hr).1⟩
  case mpr =>
    rintro ⟨t, hle, hs⟩
    cases h : wait s now backoff
    case error e => exact ⟨e, rfl⟩
    case ok u =>
      obtain ⟨rfl, hn⟩ := wait_eq_ok_iff.mp h
      exact absurd hs (hn t hle)

theorem wait_eq_error_iff (whole : now.IsWhole) :
    wait s now backoff = .error (reason, t) ↔
      t ≤ waitEnd now backoff ∧ s.FirstNoticed now t ∧ s.stopped? t = some reason := by
  have noticed {reason t} (h : wait s now backoff = .error (reason, t)) : s.FirstNoticed now t := by
    rw [wait_eq_race, Scope.race_eq_error_iff le_waitEnd] at h
    exact Scope.firstNoticed_of_awaitStop whole h.1
  constructor
  case mp =>
    intro h
    have ⟨hle, hr, _⟩ := wait_eq_error h
    exact ⟨hle, noticed h, hr⟩
  case mpr =>
    rintro ⟨hle, hf, hr⟩
    obtain ⟨⟨reason', t'⟩, h⟩ := exists_wait_eq_error_iff.mpr ⟨t, hle, hf.noticed.stopped⟩
    obtain rfl := (noticed h).eq hf
    have ⟨_, hr', _⟩ := wait_eq_error h
    rw [h, Option.some.inj (hr'.symm.trans hr)]

-- How a wait ends, however long it is. It is cut short as soon as it is noticed that the scope has
-- stopped, with the reason that is found then.
theorem wait_of_any_length (s : Scope) (now : Instant) (backoff : Time.Duration)
    (whole : now.IsWhole) :
    let finish := waitEnd now backoff
    ((now + backoff.nanos).CanBeTold → finish = Instant.wholeMilli (now + backoff.nanos)) ∧
    ((∃ e, wait s now backoff = .error e) ↔ ∃ t ≤ finish, s.HasStopped t) ∧
    (∀ reason t, wait s now backoff = .error (reason, t) ↔
      t ≤ finish ∧ s.FirstNoticed now t ∧ s.stopped? t = some reason) ∧
    (∀ t, wait s now backoff = .ok t ↔ t = finish ∧ ∀ u ≤ t, ¬s.HasStopped u) ∧
    -- A sleep until then ends like that as well, even if it takes no time, whenever one looks.
    wait s now backoff = s.race now finish ∧
    (∃ looks, s.Attentive now (some finish) looks) ∧
    ∀ looks, s.Attentive now (some finish) looks →
      (∀ c ∈ s.cancelledFrom, now < c →
        s.deadline.map Instant.wholeMilli ≠ some c ∧ finish ≠ c) →
      (s.drive now (some finish) looks).outcome = some (wait s now backoff) := by
  intro finish
  refine ⟨waitEnd_eq whole, exists_wait_eq_error_iff, fun _ _ => wait_eq_error_iff whole,
    fun _ => wait_eq_ok_iff, wait_eq_race,
    Scope.exists_attentive (by simpa using le_waitEnd), fun looks attentive apart => ?_⟩
  have apart c hc hlt := (apart c hc hlt).imp_right (mt Option.some.inj)
  rw [attentive.outcome apart, wait_eq_race]
  rfl

-- The switch is turned on when the deadline has passed and no sleeper has noticed it yet.
theorem wait_of_any_length_unnoticed :
    let s : Scope := { switch := some ⟨some 5500000, true⟩, deadline := some 5300000 }
    wait s 1000000 (.ofNanos 4200000) = .error (.cancelled, 5500000) ∧
    s.FirstNoticed 1000000 5500000 ∧
    wait s 6000000 .zero = .error (.cancelled, 6000000) ∧ s.FirstNoticed 6000000 6000000 := by
  intro s
  obtain ⟨_, _, h, _⟩ := wait_of_any_length s 1000000 (.ofNanos 4200000) rfl
  obtain ⟨_, _, h', _⟩ := wait_of_any_length s 6000000 .zero rfl
  exact ⟨rfl, ((h _ _).mp rfl).2.1, rfl, ((h' _ _).mp rfl).2.1⟩

end Retry
end Outbox

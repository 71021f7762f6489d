import Outbox.Proofs.Waiting
/-!
Work that is driven in a scope, look by look. At each look the switch is asked first, then the
deadline and then the work itself. However often one looks, the work comes to the end that
`Scope.run` gives it as long as nothing is missed.
-/

namespace Outbox

-- What is found of a scope's switch when one looks at it.
structure Look where
  time : Instant
  on   : Bool
  held : Bool

-- What driven work comes to, if it ends, and when it is asked to go on.
structure Driven where
  outcome : Option (Except (Stop × Instant) Instant)
  polls   : List Instant

namespace Scope

variable {s : Scope} {now t : Instant} {finish : Option Instant} {reason : Stop} {look : Look}
  {looks : List Look}

-- A switch that is no longer watched does not count. The deadline is noticed by a sleeper.
def stopAt? (s : Scope) (watched : Bool) (look : Look) : Option Stop :=
  if watched && look.on then some .cancelled
  else if s.deadline.any (·.wholeMilli ≤ look.time) then some .deadlineExceeded
  else none

-- Work is asked to go on while nothing stops it. Who finds the switch let go before it is on stops
-- watching it.
def driveOn (s : Scope) (finish : Option Instant) (watched : Bool) : List Look → Driven
  | [] => ⟨none, []⟩
  | look :: looks =>
    match s.stopAt? watched look with
    | some reason => ⟨some (.error (reason, look.time)), []⟩
    | none =>
      if finish.any (· ≤ look.time) then ⟨some (.ok look.time), [look.time]⟩
      else
        let rest := s.driveOn finish (watched && look.held) looks
        { rest with polls := look.time :: rest.polls }

def drive (s : Scope) (now : Instant) (finish : Option Instant) (looks : List Look) : Driven :=
  match s.stopped? now with
  | some reason => ⟨some (.error (reason, now)), []⟩
  | none        => s.driveOn finish s.switch.isSome looks

-- Looks that miss nothing. There may be more of them than there are reasons to look, and of several
-- looks at the instant at which the switch is turned on some may come too early.
structure Attentive (s : Scope) (now : Instant) (finish : Option Instant) (looks : List Look) :
    Prop where
  sorted    : looks.Pairwise (·.time ≤ ·.time)
  first     : ∃ l ∈ looks.head?, l.time = now
  seen      : ∀ l ∈ looks, l.on → s.isCancelled l.time
  abandoned : ∀ l ∈ looks, ¬l.held → ¬l.on → s.cancelledFrom = none
  cancelled : ∀ c ∈ s.cancelledFrom, now < c → ∃ l ∈ looks, l.time = c ∧ l.on
  expired   : ∀ d ∈ s.deadline, now < d → ∃ l ∈ looks, l.time = d.wholeMilli
  finished  : ∀ f ∈ finish, ∃ l ∈ looks, l.time = f

-- The first instant at which a stop condition holds.
structure FirstStop (s : Scope) (t : Instant) : Prop where
  stopped : s.HasStopped t
  first   : ∀ u < t, ¬s.HasStopped u

-- What work comes to that may be begun: it is done before anything stops it, or else it is stopped
-- as soon as something does.
inductive Ends (s : Scope) (finish : Option Instant) :
    Option (Except (Stop × Instant) Instant) → Prop
  | done {u} :
    (finish = some u) → (¬s.HasStopped u) →
    Ends s finish (some (.ok u))
  | stopped {u} :
    (s.FirstStop u) → (∀ f ∈ finish, u ≤ f) →
    Ends s finish (some (.error (if s.isCancelled u then .cancelled else .deadlineExceeded, u)))
  | never :
    (finish = none) → (∀ t, ¬s.HasStopped t) →
    Ends s finish none

namespace FirstStop

variable (h : s.FirstStop t)
include h

theorem eq {u : Instant} (hu : s.FirstStop u) : t = u :=
  Nat.le_antisymm (Nat.le_of_not_lt fun hlt => h.first u hlt hu.stopped)
    (Nat.le_of_not_lt fun hlt => hu.first t hlt h.stopped)

theorem cancelledFrom_eq (hc : s.isCancelled t) : s.cancelledFrom = some t := by
  obtain ⟨c, hc, hle⟩ := isCancelled_iff.mp hc
  have hs : s.HasStopped c :=
    hasStopped_iff.mpr <| .inl <| isCancelled_iff.mpr ⟨c, hc, Nat.le_refl c⟩
  rw [hc, Nat.le_antisymm hle <| Nat.le_of_not_lt fun hlt => h.first c hlt hs]

theorem deadline_eq (hd : s.isExpired t) : s.deadline = some t := by
  obtain ⟨d, hd, hle⟩ := isExpired_iff.mp hd
  have hs : s.HasStopped d :=
    hasStopped_iff.mpr <| .inr <| isExpired_iff.mpr ⟨d, hd, Nat.le_refl d⟩
  rw [hd, Nat.le_antisymm hle <| Nat.le_of_not_lt fun hlt => h.first d hlt hs]

end FirstStop

namespace Ends

variable {o o' : Option (Except (Stop × Instant) Instant)}

theorem unique (h : s.Ends finish o) (h' : s.Ends finish o') : o = o' := by
  cases h
  case done ht hn =>
    cases h'
    case done ht' _ => rw [Option.some.inj (ht.symm.trans ht')]
    case stopped hs hf => exact absurd (hs.stopped.mono (hf _ ht)) hn
    case never hf _ => cases ht.symm.trans hf
  case stopped hs hf =>
    cases h'
    case done ht hn => exact absurd (hs.stopped.mono (hf _ ht)) hn
    case stopped hs' _ => rw [hs.eq hs']
    case never hn => exact absurd hs.stopped (hn _)
  case never hf hn =>
    cases h'
    case done ht _ => cases hf.symm.trans ht
    case stopped hs _ => exact absurd hs.stopped (hn _)
    case never => rfl

theorem eq_iff (h : s.Ends finish o) : o = o' ↔ s.Ends finish o' where
  mp e  := e ▸ h
  mpr h' := h.unique h'

theorem ok_iff : s.Ends finish (some (.ok t)) ↔ finish = some t ∧ ¬s.HasStopped t where
  mp h := by
    cases h
    case done ht hn => exact ⟨ht, hn⟩
  mpr h := .done h.1 h.2

theorem error_iff :
    s.Ends finish (some (.error (reason, t))) ↔
      s.FirstStop t ∧ (∀ f ∈ finish, t ≤ f) ∧
        reason = if s.isCancelled t then .cancelled else .deadlineExceeded where
  mp h := by
    cases h
    case stopped hs hf => exact ⟨hs, hf, rfl⟩
  mpr h := h.2.2 ▸ .stopped h.1 h.2.1

theorem none_iff : s.Ends finish none ↔ finish = none ∧ ∀ t, ¬s.HasStopped t where
  mp h := by
    cases h
    case never hf hn => exact ⟨hf, hn⟩
  mpr h := .never h.1 h.2

end Ends

-- With deadlines at whole milliseconds nobody is told late that the scope has stopped.
theorem firstStop_of_stopInstant? (hd : ∀ d ∈ s.deadline, d.IsWhole) (hn : ¬s.HasStopped now)
    (h : s.stopInstant? now = some t) : s.FirstStop t where
  stopped := (stopInstant?_eq_some hn h).1
  first u hlt hs := by
    rw [stopInstant?_eq hn] at h
    obtain ⟨_, hc, he⟩ := earlier_eq_some h
    simp only [hasStopped_iff, isCancelled_iff, isExpired_iff] at hs
    cases hs
    case inl hs =>
      obtain ⟨c, hs, hu⟩ := hs
      exact Nat.not_lt_of_le (Nat.le_trans (hc c hs) hu) hlt
    case inr hs =>
      obtain ⟨d, hs, hu⟩ := hs
      have hle : t ≤ d := he d (by rw [hs, Option.map_some, hd d hs])
      exact Nat.not_lt_of_le (Nat.le_trans hle hu) hlt

theorem run_ends (hd : ∀ d ∈ s.deadline, d.IsWhole) (hn : ¬s.HasStopped now) :
    s.Ends finish (s.run now finish) := by
  cases finish
  case none =>
    simp only [run, not_hasStopped_iff.mp hn, awaitStop]
    cases ht : s.stopInstant? now
    case none => exact .never rfl fun _ => stopInstant?_eq_none hn ht
    case some => exact .stopped (firstStop_of_stopInstant? hd hn ht) (by simp)
  case some f =>
    simp only [run, race, not_hasStopped_iff.mp hn, awaitStop]
    cases ht : s.stopInstant? now
    case none => exact .done rfl (stopInstant?_eq_none hn ht)
    case some t =>
      have h : s.FirstStop t := firstStop_of_stopInstant? hd hn ht
      simp only [Option.map_some]
      split
      case isTrue hlt => exact .done rfl (h.first f hlt)
      case isFalse hlt => exact .stopped h (by simpa using hlt)

-- What a single look settles if the switch is watched.
def settled? (s : Scope) (finish : Option Instant) (look : Look) :
    Option (Except (Stop × Instant) Instant) :=
  match s.stopAt? true look with
  | some reason => some (.error (reason, look.time))
  | none        => if finish.any (· ≤ look.time) then some (.ok look.time) else none

-- A deadline is not noticed before it has come.
theorem isExpired_of_any (h : s.deadline.any (·.wholeMilli ≤ t)) : s.isExpired t := by
  obtain ⟨d, hd, hle⟩ := Option.any_eq_true .. |>.mp h
  exact isExpired_iff.mpr ⟨d, hd, Nat.le_trans d.le_wholeMilli (of_decide_eq_true hle)⟩

theorem any_le_eq_false (h : ∀ f ∈ finish, t < f) : finish.any (· ≤ t) = false := by
  rw [Bool.eq_false_iff]
  intro ha
  obtain ⟨f, hf, hle⟩ := Option.any_eq_true .. |>.mp ha
  exact Nat.not_lt_of_le (of_decide_eq_true hle) (h f hf)

theorem stopAt?_eq_none (hs : look.on → s.isCancelled look.time) (hn : ¬s.HasStopped look.time) :
    s.stopAt? true look = none := by
  rw [hasStopped_iff, not_or] at hn
  have ho : look.on = false := by simpa using mt hs hn.1
  have hd : s.deadline.any (·.wholeMilli ≤ look.time) = false :=
    Bool.eq_false_iff.mpr (mt isExpired_of_any hn.2)
  simp [stopAt?, ho, hd]

theorem not_on_of_stopAt?_eq_none (h : s.stopAt? true look = none) : ¬look.on := by
  intro ho
  simp [stopAt?, ho] at h

-- Nobody misses a switch that is not watched any more.
theorem stopAt?_eq {watched : Bool} (hw : watched = false → s.cancelledFrom = none)
    (hs : look.on → s.isCancelled look.time) : s.stopAt? watched look = s.stopAt? true look := by
  cases watched
  case true => rfl
  case false =>
    have ho : look.on = false := by simpa [isCancelled, hw rfl] using hs
    simp [stopAt?, ho]

theorem driveOn_outcome {watched : Bool} (hw : watched = false → s.cancelledFrom = none)
    (hs : ∀ l ∈ looks, l.on → s.isCancelled l.time)
    (ha : ∀ l ∈ looks, ¬l.held → ¬l.on → s.cancelledFrom = none) :
    (s.driveOn finish watched looks).outcome = looks.findSome? (s.settled? finish) := by
  induction looks generalizing watched
  case nil => rfl
  case cons l ls hi =>
    rw [List.forall_mem_cons] at hs ha
    rw [driveOn, List.findSome?_cons, settled?, stopAt?_eq hw hs.1]
    cases h : s.stopAt? true l
    case some => rfl
    case none =>
      cases hf : finish.any (· ≤ l.time)
      case true => rfl
      case false =>
        refine hi (fun hl => ?_) hs.2 ha.2
        cases watched
        case false => exact hw rfl
        case true => exact ha.1 (by simpa using hl) (not_on_of_stopAt?_eq_none h)

-- The first look that settles anything is one at the instant at which everything is settled.
theorem findSome?_eq_some {β : Type} {settled : Look → Option β} {o : β}
    (hs : looks.Pairwise (·.time ≤ ·.time)) (early : ∀ l ∈ looks, l.time < t → settled l = none)
    (tied : ∀ l ∈ looks, l.time = t → ∀ o' ∈ settled l, o' = o)
    (decided : ∃ l ∈ looks, l.time = t ∧ settled l = some o) :
    looks.findSome? settled = some o := by
  induction looks
  case nil => simp at decided
  case cons l ls hi =>
    rw [List.pairwise_cons] at hs
    rw [List.forall_mem_cons] at early tied
    rw [List.findSome?_cons]
    cases h : settled l
    case none =>
      obtain ⟨l', hl', ht, hd⟩ := decided
      cases hl'
      case head => cases h.symm.trans hd
      case tail hl' => exact hi hs.2 early.2 tied.2 ⟨l', hl', ht, hd⟩
    case some o' =>
      have hle : l.time ≤ t := by
        obtain ⟨l', hl', rfl, _⟩ := decided
        cases hl'
        case head => exact Nat.le_refl _
        case tail hl' => exact hs.1 l' hl'
      have heq : l.time = t := Nat.le_antisymm hle <| Nat.le_of_not_lt fun hlt => by
        cases h.symm.trans (early.1 hlt)
      rw [tied.1 heq o' h]

-- Whoever looks when the switch is turned on first finds nothing but the switch, unless he comes
-- too early.
theorem settled?_eq_of_switch (hs : s.FirstStop t) (hd : s.deadline ≠ some t)
    (hf : ∀ f ∈ finish, t < f) (ht : look.time = t) :
    s.settled? finish look = if look.on then some (.error (.cancelled, t)) else none := by
  subst ht
  cases ho : look.on
  case true => simp [settled?, stopAt?, ho]
  case false =>
    have hd : s.deadline.any (·.wholeMilli ≤ look.time) = false :=
      Bool.eq_false_iff.mpr (mt (hs.deadline_eq <| isExpired_of_any ·) hd)
    have hf : finish.any (· ≤ look.time) = false := any_le_eq_false hf
    simp [settled?, stopAt?, ho, hd, hf]

namespace Attentive

variable (a : s.Attentive now finish looks)
include a

theorem settled?_eq (hn : ¬s.HasStopped look.time) (hl : look ∈ looks) :
    s.settled? finish look =
      if finish.any (· ≤ look.time) then some (.ok look.time) else none := by
  rw [settled?, stopAt?_eq_none (a.seen look hl) hn]

-- Whoever looks when the deadline comes first finds nothing but the deadline.
theorem settled?_eq_of_deadline (whole : ∀ d ∈ s.deadline, d.IsWhole) (hs : s.FirstStop t)
    (hc : ¬s.isCancelled t) (hl : look ∈ looks) (ht : look.time = t) :
    s.settled? finish look = some (.error (.deadlineExceeded, t)) := by
  subst ht
  have ho : look.on = false := by simpa using mt (a.seen look hl) hc
  have hd : s.deadline = some look.time :=
    hs.deadline_eq <| (hasStopped_iff.mp hs.stopped).resolve_left hc
  have hw : s.deadline.any (·.wholeMilli ≤ look.time) :=
    Option.any_eq_true .. |>.mpr ⟨_, hd, decide_eq_true (Nat.le_of_eq (whole _ hd))⟩
  simp [settled?, stopAt?, ho, hw]

theorem findSome?_of_not_hasStopped (hf : finish = some t) (hs : ¬s.HasStopped t) :
    looks.findSome? (s.settled? finish) = some (.ok t) := by
  subst hf
  have he : ∀ l ∈ looks, l.time ≤ t →
      s.settled? (some t) l = if t ≤ l.time then some (.ok l.time) else none := by
    intro l hl hle
    simp [a.settled?_eq (mt (·.mono hle) hs) hl]
  refine findSome?_eq_some (t := t) a.sorted ?early ?tied ?decided
  case early =>
    intro l hl hlt
    rw [he l hl (Nat.le_of_lt hlt), if_neg (Nat.not_le_of_lt hlt)]
  case tied =>
    rintro l hl rfl o ho
    rw [he l hl (Nat.le_refl _), if_pos (Nat.le_refl _)] at ho
    exact (Option.some.inj ho).symm
  case decided =>
    obtain ⟨l, hl, rfl⟩ := a.finished t rfl
    exact ⟨l, hl, rfl, by rw [he l hl (Nat.le_refl _), if_pos (Nat.le_refl _)]⟩

theorem settled?_eq_none (hs : s.FirstStop t) (hf : ∀ f ∈ finish, t ≤ f) (hl : look ∈ looks)
    (hlt : look.time < t) : s.settled? finish look = none := by
  have hf : finish.any (· ≤ look.time) = false :=
    any_le_eq_false fun f hf' => Nat.lt_of_lt_of_le hlt (hf f hf')
  rw [a.settled?_eq (hs.first _ hlt) hl, hf]
  rfl

theorem findSome?_of_switch (hs : s.FirstStop t) (hlt : now < t) (hc : s.isCancelled t)
    (hd : s.deadline ≠ some t) (hf : ∀ f ∈ finish, t < f) :
    looks.findSome? (s.settled? finish) = some (.error (.cancelled, t)) := by
  refine findSome?_eq_some (t := t) a.sorted ?early ?tied ?decided
  case early => exact fun l hl => a.settled?_eq_none hs (fun f hf' => Nat.le_of_lt (hf f hf')) hl
  case tied =>
    intro l hl ht o ho
    rw [settled?_eq_of_switch hs hd hf ht] at ho
    split at ho
    case isTrue => exact (Option.some.inj ho).symm
    case isFalse => cases ho
  case decided =>
    obtain ⟨l, hl, ht, ho⟩ := a.cancelled t (hs.cancelledFrom_eq hc) hlt
    exact ⟨l, hl, ht, by rw [settled?_eq_of_switch hs hd hf ht, if_pos ho]⟩

theorem findSome?_of_deadline (whole : ∀ d ∈ s.deadline, d.IsWhole) (hs : s.FirstStop t)
    (hlt : now < t) (hc : ¬s.isCancelled t) (hf : ∀ f ∈ finish, t ≤ f) :
    looks.findSome? (s.settled? finish) = some (.error (.deadlineExceeded, t)) := by
  have hd : s.deadline = some t :=
    hs.deadline_eq <| (hasStopped_iff.mp hs.stopped).resolve_left hc
  refine findSome?_eq_some (t := t) a.sorted ?early ?tied ?decided
  case early => exact fun l hl => a.settled?_eq_none hs hf hl
  case tied =>
    intro l hl ht o ho
    rw [a.settled?_eq_of_deadline whole hs hc hl ht] at ho
    exact (Option.some.inj ho).symm
  case decided =>
    obtain ⟨l, hl, ht⟩ := a.expired t hd hlt
    rw [whole t hd] at ht
    exact ⟨l, hl, ht, a.settled?_eq_of_deadline whole hs hc hl ht⟩

-- The looks taken lead to the end that the work comes to.
theorem findSome?_settled? (whole : ∀ d ∈ s.deadline, d.IsWhole)
    (apart : ∀ c ∈ s.cancelledFrom, now < c → s.deadline ≠ some c ∧ finish ≠ some c)
    (hn : ¬s.HasStopped now) {o : Option (Except (Stop × Instant) Instant)}
    (h : s.Ends finish o) : looks.findSome? (s.settled? finish) = o := by
  cases h
  case done hf hs => exact a.findSome?_of_not_hasStopped hf hs
  case stopped t hs hf =>
    have hlt : now < t := Nat.lt_of_not_le fun hle => hn (hs.stopped.mono hle)
    cases hc : s.isCancelled t
    case true =>
      obtain ⟨hd, hne⟩ := apart t (hs.cancelledFrom_eq hc) hlt
      have hf : ∀ f ∈ finish, t < f := fun f hf' =>
        Nat.lt_of_le_of_ne (hf f hf') fun he => hne (he ▸ hf')
      exact a.findSome?_of_switch hs hlt hc hd hf
    case false => exact a.findSome?_of_deadline whole hs hlt (by simp [hc]) hf
  case never hf hs =>
    refine List.findSome?_eq_none_iff.mpr fun l hl => ?_
    rw [a.settled?_eq (hs _) hl, hf]
    rfl

end Attentive

theorem cancelledFrom_of_not_isSome (h : s.switch.isSome = false) : s.cancelledFrom = none := by
  have hs : s.switch = none := by simpa using h
  rw [cancelledFrom, hs, Option.bind_none]

theorem drive_of_stopped? (h : s.stopped? now = some reason) :
    s.drive now finish looks = ⟨some (.error (reason, now)), []⟩ := by
  rw [drive, h]

theorem run_of_stopped? (h : s.stopped? now = some reason) :
    s.run now finish = some (.error (reason, now)) := by
  cases finish
  all_goals simp [run, race, h]

-- Nothing but these two instants counts.
theorem run_congr {s' : Scope} (hc : s.cancelledFrom = s'.cancelledFrom)
    (hd : s.deadline = s'.deadline) : s.run now finish = s'.run now finish := by
  have hc' (t : Instant) : s.isCancelled t = s'.isCancelled t := by
    rw [isCancelled, hc, isCancelled]
  have hd' (t : Instant) : s.isExpired t = s'.isExpired t := by rw [isExpired, hd, isExpired]
  have hs : s.stopped? now = s'.stopped? now := by rw [stopped?, hc', hd', stopped?]
  have ha : s.awaitStop now = s'.awaitStop now := by
    simp only [awaitStop, stopInstant?, hc, hd, hc']
  cases finish
  all_goals simp only [run, race, hs, ha]

theorem drive_outcome (a : s.Attentive now finish looks) (whole : ∀ d ∈ s.deadline, d.IsWhole)
    (apart : ∀ c ∈ s.cancelledFrom, now < c → s.deadline ≠ some c ∧ finish ≠ some c) :
    (s.drive now finish looks).outcome = s.run now finish := by
  cases h : s.stopped? now
  case some => rw [drive_of_stopped? h, run_of_stopped? h]
  case none =>
    have hn : ¬s.HasStopped now := not_hasStopped_iff.mpr h
    rw [drive, h]
    exact (driveOn_outcome cancelledFrom_of_not_isSome a.seen a.abandoned).trans <|
      a.findSome?_settled? whole apart hn (run_ends whole hn)

-- Work is asked to go on at least once unless it must not be begun.
theorem Attentive.polls_eq_nil_iff (a : s.Attentive now finish looks) :
    (s.drive now finish looks).polls = [] ↔ s.HasStopped now := by
  cases h : s.stopped? now
  case some => simp [drive, HasStopped, h]
  case none =>
    have hn : ¬s.HasStopped now := not_hasStopped_iff.mpr h
    obtain ⟨l, hl, rfl⟩ := a.first
    have hm : l ∈ looks := List.mem_of_mem_head? hl
    obtain ⟨ls, rfl⟩ := List.head?_eq_some_iff.mp hl
    have hs : s.stopAt? s.switch.isSome l = none :=
      (stopAt?_eq cancelledFrom_of_not_isSome (a.seen l hm)).trans <|
        stopAt?_eq_none (a.seen l hm) hn
    simp only [drive, h, driveOn, hs, hn, iff_false]
    split
    all_goals exact List.cons_ne_nil _ _

theorem isCancelled_mono {u : Instant} (h : s.isCancelled t) (hle : t ≤ u) : s.isCancelled u := by
  obtain ⟨c, hc, hct⟩ := isCancelled_iff.mp h
  exact isCancelled_iff.mpr ⟨c, hc, Nat.le_trans hct hle⟩

theorem isExpired_iff_of_deadline {d : Instant} (hd : s.deadline = some d) :
    s.isExpired t ↔ d ≤ t := by
  simp [isExpired, hd]

-- A deadline that comes when the work is done comes first.
theorem run_of_deadline (hle : now ≤ t) (whole : ∀ d ∈ s.deadline, d.IsWhole)
    (hd : s.deadline = some t) (hc : ¬s.isCancelled t) :
    s.run now (some t) = some (.error (.deadlineExceeded, t)) := by
  have he {u} : s.isExpired u ↔ t ≤ u := isExpired_iff_of_deadline hd
  by_cases hn : s.HasStopped now
  case pos =>
    have hcn : ¬s.isCancelled now := mt (isCancelled_mono · hle) hc
    have hen : s.isExpired now := (hasStopped_iff.mp hn).resolve_left hcn
    obtain rfl : now = t := Nat.le_antisymm hle (he.mp hen)
    exact run_of_stopped? (by rw [stopped?, if_neg hcn, if_pos hen])
  case neg =>
    refine (run_ends whole hn).unique <|
      Ends.error_iff.mpr ⟨⟨?stopped, ?first⟩, by simp, by simp [hc]⟩
    case stopped => exact hasStopped_iff.mpr <| .inr <| he.mpr (Nat.le_refl t)
    case first =>
      intro u hlt hs
      cases hasStopped_iff.mp hs
      case inl hu => exact hc (isCancelled_mono hu (Nat.le_of_lt hlt))
      case inr hu => exact Nat.not_lt_of_le (he.mp hu) hlt

-- Work that is done at once is stopped only in a scope that has stopped.
theorem run_eq_error_iff (whole : ∀ d ∈ s.deadline, d.IsWhole) :
    (∃ t, s.run now (some now) = some (.error (reason, t))) ↔ s.stopped? now = some reason := by
  cases h : s.stopped? now
  case some => simp [run_of_stopped? h]
  case none =>
    have hn : ¬s.HasStopped now := not_hasStopped_iff.mpr h
    have hr : s.run now (some now) = some (.ok now) := (run_ends whole hn).unique (.done rfl hn)
    simp [hr]

-- Instants at which there is a reason to look, from `now` on.
def moments (s : Scope) (now : Instant) (finish : Option Instant) : List Instant :=
  now :: List.mergeSort
    ((s.cancelledFrom.toList ++ (s.deadline.map Instant.wholeMilli).toList ++ finish.toList).filter
      (now ≤ ·))

theorem mem_moments :
    t ∈ s.moments now finish ↔ t = now ∨
      ((s.cancelledFrom = some t ∨ (∃ d, s.deadline = some d ∧ d.wholeMilli = t)) ∨
        finish = some t) ∧ now ≤ t := by
  simp [moments, or_and_right, or_assoc]

theorem pairwise_moments : (s.moments now finish).Pairwise (· ≤ ·) := by
  refine List.pairwise_cons.mpr ⟨fun t ht => ?_, ?_⟩
  case refine_1 => exact of_decide_eq_true (List.mem_filter.mp (List.mem_mergeSort.mp ht)).2
  case refine_2 =>
    refine (List.pairwise_mergeSort ?_ ?_ _).imp of_decide_eq_true
    all_goals simp only [decide_eq_true_eq, Bool.or_eq_true]
    case refine_1 => exact fun _ _ _ => Nat.le_trans
    case refine_2 => exact Nat.le_total

-- One can always miss nothing.
theorem exists_attentive (later : ∀ f ∈ finish, now ≤ f) :
    ∃ looks, s.Attentive now finish looks := by
  let look (t : Instant) : Look := ⟨t, s.isCancelled t, true⟩
  refine ⟨(s.moments now finish).map look, ?_⟩
  have found {t} (h : t ∈ s.moments now finish) :
      ∃ l ∈ (s.moments now finish).map look, l.time = t ∧ l.on = s.isCancelled t :=
    ⟨look t, List.mem_map_of_mem h, rfl, rfl⟩
  constructor
  case sorted => exact List.pairwise_map.mpr pairwise_moments
  case first => exact ⟨look now, rfl, rfl⟩
  case seen => simp [look]
  case abandoned => simp [look]
  case cancelled =>
    intro c hc hlt
    obtain ⟨l, hl, ht, ho⟩ := found <| mem_moments.mpr <| .inr ⟨.inl (.inl hc), Nat.le_of_lt hlt⟩
    exact ⟨l, hl, ht, ho ▸ isCancelled_iff.mpr ⟨c, hc, Nat.le_refl c⟩⟩
  case expired =>
    intro d hd hlt
    have hle : now ≤ d.wholeMilli := Nat.le_trans (Nat.le_of_lt hlt) d.le_wholeMilli
    obtain ⟨l, hl, ht, _⟩ := found <| mem_moments.mpr <| .inr ⟨.inl (.inr ⟨d, hd, rfl⟩), hle⟩
    exact ⟨l, hl, ht⟩
  case finished =>
    intro f hf
    obtain ⟨l, hl, ht, _⟩ := found <| mem_moments.mpr <| .inr ⟨.inr hf, later f hf⟩
    exact ⟨l, hl, ht⟩

-- How work ends that is driven in a scope, whenever one looks at it.
theorem driven_ends (s : Scope) (now : Instant) (finish : Option Instant)
    (later : ∀ f ∈ finish, now ≤ f) (whole : ∀ d ∈ s.deadline, d.IsWhole)
    (apart : ∀ c ∈ s.cancelledFrom, now < c → s.deadline ≠ some c ∧ finish ≠ some c) :
    (∃ looks, s.Attentive now finish looks) ∧ ∀ looks, s.Attentive now finish looks →
    let r := s.drive now finish looks
    r.outcome = s.run now finish ∧
    -- In a scope that has stopped it is not begun.
    (r.polls = [] ↔ s.HasStopped now) ∧
    (s.isCancelled now → r = ⟨some (.error (.cancelled, now)), []⟩) ∧
    (¬s.isCancelled now → s.isExpired now → r = ⟨some (.error (.deadlineExceeded, now)), []⟩) ∧
    -- Otherwise it is done before the scope stops, or stopped as soon as the scope does.
    (¬s.HasStopped now →
      (∀ t, r.outcome = some (.ok t) ↔ finish = some t ∧ ¬s.HasStopped t) ∧
      (∀ reason t, r.outcome = some (.error (reason, t)) ↔
        s.FirstStop t ∧ (∀ f ∈ finish, t ≤ f) ∧
          reason = if s.isCancelled t then .cancelled else .deadlineExceeded) ∧
      (r.outcome = none ↔ finish = none ∧ ∀ t, ¬s.HasStopped t)) ∧
    -- It is stopped even if it is done when the deadline comes.
    (∀ d, s.deadline = some d → finish = some d → ¬s.isCancelled d →
      r.outcome = some (.error (.deadlineExceeded, d))) ∧
    -- A switch that is never turned on counts as none, and no one turns it who let it go.
    (∀ switch, s.switch = some switch → switch.turnedOn = none →
      (∀ t on, switch.letGo.turn t on = switch.letGo) ∧
      r.outcome = Scope.run { s with switch := none } now finish) ∧
    -- Of work that is done at once nothing counts but whether the scope has stopped.
    (finish = some now → ∀ reason,
      (∃ t, r.outcome = some (.error (reason, t))) ↔ s.stopped? now = some reason) := by
  refine ⟨exists_attentive later, fun looks attentive => ?_⟩
  intro r
  have hr : r.outcome = s.run now finish := drive_outcome attentive whole apart
  have ends (hn : ¬s.HasStopped now) : s.Ends finish r.outcome := hr ▸ run_ends whole hn
  refine ⟨hr, attentive.polls_eq_nil_iff, fun hc => ?_, fun hc he => ?_, fun hn => ?_,
    fun d hd hf hc => ?_, fun switch hs ht => ?_, fun hf reason => ?_⟩
  case refine_1 => exact drive_of_stopped? (by rw [stopped?, if_pos hc])
  case refine_2 => exact drive_of_stopped? (by rw [stopped?, if_neg hc, if_pos he])
  case refine_3 =>
    exact ⟨fun t => ((ends hn).eq_iff).trans Ends.ok_iff,
      fun reason t => ((ends hn).eq_iff).trans Ends.error_iff,
      ((ends hn).eq_iff).trans Ends.none_iff⟩
  case refine_4 =>
    rw [hr, hf]
    exact run_of_deadline (later d hf) whole hd hc
  case refine_5 =>
    refine ⟨fun t on => by simp [Switch.turn, Switch.letGo], hr.trans (run_congr ?_ rfl)⟩
    simp [cancelledFrom, hs, ht]
  case refine_6 =>
    rw [hr, hf]
    exact run_eq_error_iff whole

-- The deadline comes when the work is done, and the switch is turned on too late.
theorem driven_ends_tied :
    let s : Scope := { switch := some ⟨some 9000000, true⟩, deadline := some 7000000 }
    let looks : List Look :=
      [⟨1000000, false, true⟩, ⟨4000000, false, true⟩, ⟨7000000, false, true⟩,
        ⟨9000000, false, true⟩, ⟨9000000, true, false⟩]
    s.Attentive 1000000 (some 7000000) looks ∧
    (s.drive 1000000 (some 7000000) looks).outcome =
      some (.error (.deadlineExceeded, 7000000)) := by
  intro s looks
  have attentive : s.Attentive 1000000 (some 7000000) looks := by
    constructor
    all_goals decide
  have whole : ∀ d ∈ s.deadline, d.wholeMilli = d := by decide
  obtain ⟨_, h⟩ := driven_ends s 1000000 (some 7000000) (by decide) whole (by decide)
  obtain ⟨_, _, _, _, _, h, _⟩ := h looks attentive
  exact ⟨attentive, h 7000000 rfl rfl (by decide)⟩

end Scope
end Outbox

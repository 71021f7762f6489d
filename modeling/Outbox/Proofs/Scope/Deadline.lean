import Outbox.Proofs.Waiting
/-!
The deadline of a scope that was given several. However they are given, the earliest one counts.
-/

namespace Outbox

-- What a scope may be given: a switch, or a deadline, which may be told by the time until then.
inductive Limit where
  | switch (switch : Switch)
  | deadline (deadline : Instant)
  | timeout (now : Instant) (timeout : Time.Duration)

namespace Limit

def switch? : Limit → Option Switch
  | switch s => some s
  | _        => none

def deadline? : Limit → Option Instant
  | switch _      => none
  | deadline d    => some d
  | timeout now d => some (now + d.nanos)

end Limit

namespace Scope

variable {s : Scope} {t : Instant} {ds : List Instant}

def limit (s : Scope) : Limit → Scope
  | .switch switch       => s.withSwitch switch
  | .deadline d          => s.withDeadline d
  | .timeout now timeout => s.withTimeout now timeout

-- A scope that is given one limit after the other.
def ofLimits (limits : List Limit) : Scope :=
  limits.foldl limit background

theorem earlier_none (a : Option Instant) : earlier a none = a := by
  cases a <;> rfl

theorem earlier_assoc (a b c : Option Instant) :
    earlier (earlier a b) c = earlier a (earlier b c) := by
  cases a <;> cases b <;> cases c <;> simp [earlier, Nat.min_assoc]

theorem min?_cons_eq (d : Instant) (ds : List Instant) :
    (d :: ds).min? = earlier (some d) ds.min? := by
  rw [List.min?_cons]
  cases ds.min? <;> rfl

theorem deadline_limit (s : Scope) (l : Limit) :
    (s.limit l).deadline = earlier s.deadline l.deadline? := by
  cases l
  case switch => exact (earlier_none _).symm
  all_goals
    cases h : s.deadline <;>
      simp [limit, withTimeout, withDeadline, Limit.deadline?, h, earlier]

theorem switch_limit (s : Scope) (l : Limit) : (s.limit l).switch = l.switch?.or s.switch := by
  cases l <;> rfl

theorem deadline_foldl_limit (limits : List Limit) (s : Scope) :
    (limits.foldl limit s).deadline =
      earlier s.deadline (limits.filterMap Limit.deadline?).min? := by
  induction limits generalizing s
  case nil => exact (earlier_none _).symm
  case cons l limits hi =>
    rw [List.foldl_cons, hi, deadline_limit, earlier_assoc]
    cases h : l.deadline?
    case none =>
      rw [List.filterMap_cons_none h]
      rfl
    case some d => rw [List.filterMap_cons_some h, min?_cons_eq]

theorem switch_foldl_limit (limits : List Limit) (s : Scope) :
    (limits.foldl limit s).switch = (limits.filterMap Limit.switch?).getLast?.or s.switch := by
  induction limits generalizing s
  case nil => rfl
  case cons l limits hi =>
    rw [List.foldl_cons, hi, switch_limit]
    cases h : l.switch?
    case none =>
      rw [List.filterMap_cons_none h]
      rfl
    case some switch =>
      rw [List.filterMap_cons_some h, List.getLast?_cons]
      cases (limits.filterMap Limit.switch?).getLast? <;> rfl

-- It does not count how often, and in which order, deadlines are given.
theorem min?_congr {es : List Instant} (h : ∀ d, d ∈ ds ↔ d ∈ es) : ds.min? = es.min? := by
  refine Option.ext fun d => ?_
  simp only [List.min?_eq_some_iff, h]

theorem isExpired_iff_exists_mem (h : s.deadline = ds.min?) :
    s.isExpired t ↔ ∃ d ∈ ds, d ≤ t := by
  rw [isExpired_iff, h]
  constructor
  case mp =>
    rintro ⟨d, hd, hle⟩
    exact ⟨d, (List.min?_eq_some_iff.mp hd).1, hle⟩
  case mpr =>
    rintro ⟨d, hd, hle⟩
    obtain ⟨e, he⟩ := Option.ne_none_iff_exists'.mp fun hn =>
      List.ne_nil_of_mem hd (List.min?_eq_none_iff.mp hn)
    exact ⟨e, he, Nat.le_trans ((List.min?_eq_some_iff.mp he).2 d hd) hle⟩

theorem stopped?_eq_cancelled_iff : s.stopped? t = some .cancelled ↔ s.isCancelled t := by
  cases hc : s.isCancelled t <;> cases hd : s.isExpired t <;> simp [stopped?, hc, hd]

theorem stopped?_eq_deadlineExceeded_iff :
    s.stopped? t = some .deadlineExceeded ↔ s.isExpired t ∧ ¬s.isCancelled t := by
  cases hc : s.isCancelled t <;> cases hd : s.isExpired t <;> simp [stopped?, hc, hd]

-- Of all deadlines that a scope is given the earliest one counts, and of all switches the last one.
theorem deadline_ofLimits (limits : List Limit) :
    let s := ofLimits limits
    let given := limits.filterMap Limit.deadline?
    s.deadline = given.min? ∧
    (s.deadline = none ↔ given = []) ∧
    (∀ others : List Limit, (∀ d, d ∈ given ↔ d ∈ others.filterMap Limit.deadline?) →
      (ofLimits others).deadline = s.deadline) ∧
    s.switch = (limits.filterMap Limit.switch?).getLast? ∧
    -- The scope stops when the first of them has passed, whatever has become of the switch by then.
    ∀ switch t, let s' : Scope := { s with switch }
      (s'.stopped? t = some .cancelled ↔ s'.isCancelled t) ∧
      (s'.stopped? t = some .deadlineExceeded ↔ (∃ d ∈ given, d ≤ t) ∧ ¬s'.isCancelled t) := by
  intro s given
  have hd (limits : List Limit) :
      (ofLimits limits).deadline = (limits.filterMap Limit.deadline?).min? :=
    deadline_foldl_limit limits background
  refine ⟨hd limits, ?none, fun others h => ?others, ?switch,
    fun switch t => ⟨?cancelled, ?expired⟩⟩
  case none => rw [hd, List.min?_eq_none_iff]
  case others => rw [hd, hd, min?_congr h]
  case switch => exact (switch_foldl_limit limits background).trans Option.or_none
  case cancelled => exact stopped?_eq_cancelled_iff
  case expired =>
    have he : Scope.isExpired { s with switch } t ↔ ∃ d ∈ given, d ≤ t :=
      isExpired_iff_exists_mem (hd limits)
    rw [stopped?_eq_deadlineExceeded_iff, he]

theorem deadline_ofLimits_repeated :
    let limits : List Limit :=
      [.timeout 1000000 (.ofNanos 4000000), .deadline 3000000, .switch ⟨none, true⟩]
    let others : List Limit := [.deadline 5000000, .deadline 3000000, .deadline 5000000]
    (ofLimits limits).deadline = some 3000000 ∧ (ofLimits others).deadline = some 3000000 ∧
    (ofLimits limits).stopped? 3000000 = some .deadlineExceeded := by
  intro limits others
  obtain ⟨h, _, ho, _, hs⟩ := deadline_ofLimits limits
  have hm (d : Instant) : d ∈ [5000000, 3000000] ↔ d ∈ [5000000, 3000000, 5000000] := by
    grind
  exact ⟨h, (ho others hm).trans h, ((hs _ 3000000).2).mpr ⟨by decide, by decide⟩⟩

end Scope
end Outbox

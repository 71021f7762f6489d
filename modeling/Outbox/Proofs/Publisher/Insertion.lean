import Outbox.Publisher.Publish
/-!
The ways in which writing one message can go: what an attempt does, and how attempts follow each
other until the message is written or given up.
-/

namespace Outbox

namespace Executor

-- A failed statement may be run again, unless it failed because it was interrupted.
def Failure.isRetryable : Failure → Bool
  | database _         => true
  | invalidArgument .. => true
  | interrupted _      => false

theorem Failure.isRetryable_of_not_interrupted {failure : Failure}
    (h : ∀ reason, failure = .interrupted reason → False) : failure.isRetryable = true := by
  cases failure
  case interrupted reason => exact absurd rfl (h reason)
  all_goals rfl

namespace Reply

variable {r : Reply} {rows : Nat} {failure : Failure}

def isSuccess (r : Reply) : Bool :=
  match r.answer with
  | .ok _    => true
  | .error _ => false

def isRetryable (r : Reply) : Bool :=
  match r.answer with
  | .ok _          => false
  | .error failure => failure.isRetryable

theorem isSuccess_of_ok (h : r.answer = .ok rows) : r.isSuccess = true := by
  simp [isSuccess, h]

theorem isSuccess_of_error (h : r.answer = .error failure) : r.isSuccess = false := by
  simp [isSuccess, h]

theorem isRetryable_of_error (h : r.answer = .error failure) (hf : failure.isRetryable) :
    r.isRetryable = true := by
  simp [isRetryable, h, hf]

theorem isRetryable_of_interrupted {reason : Stop} (h : r.answer = .error (.interrupted reason)) :
    r.isRetryable = false := by
  simp [isRetryable, h, Failure.isRetryable]

theorem isRetryable_iff :
    r.isRetryable = true ↔ ∃ failure, r.answer = .error failure ∧ failure.isRetryable := by
  cases h : r.answer <;> simp [isRetryable, h]

theorem isSuccess_of_isRetryable (h : r.isRetryable) : r.isSuccess = false := by
  obtain ⟨_, h, _⟩ := isRetryable_iff.mp h
  exact isSuccess_of_error h

end Reply
end Executor

namespace Publisher

open Executor (Call Reply)

namespace Run

variable {σ : Type} {r : Run σ} {s : Situation σ} {calls : List (Call × Reply)}
  {notices : List Notice} {result : Except Failure Unit}

@[simp] theorem result_prepend : (r.prepend calls notices).result = r.result := rfl
@[simp] theorem calls_prepend : (r.prepend calls notices).calls = calls ++ r.calls := rfl
@[simp] theorem notices_prepend : (r.prepend calls notices).notices = notices ++ r.notices := rfl
@[simp] theorem final_prepend : (r.prepend calls notices).final = r.final := rfl

@[simp] theorem result_ended : (ended result notices s).result = result := rfl
@[simp] theorem calls_ended : (ended result notices s).calls = [] := rfl
@[simp] theorem notices_ended : (ended result notices s).notices = notices := rfl
@[simp] theorem final_ended : (ended result notices s).final = s := rfl

end Run

variable {σ : Type} {c : Config} {ex : Executor σ} {m : Message}

-- One call of the executor for a message. It is made in a scope that has not stopped, and the
-- situation behind it is what the executor makes of it.
structure Attempt (c : Config) (ex : Executor σ) (m : Message) (s₁ : Situation σ) (reply : Reply)
    (s₂ : Situation σ) : Prop where
  live     : s₁.scope.stopped? s₁.now = none
  answered : ex (c.call m s₁) s₁.store = (reply, s₂.store)
  scope    : s₂.scope = (c.call m s₁).scopeAfter reply
  now      : s₂.now = s₁.now + reply.elapsed

theorem Attempt.situation_eq {s₁ s₂ : Situation σ} {reply : Reply}
    (a : Attempt c ex m s₁ reply s₂) :
    .after (c.call m s₁) reply s₂.store = s₂ := by
  rw [Situation.after, ← a.scope]
  exact congrArg (Situation.mk _ _) a.now.symm

-- What is reported before attempt number `k` is repeated.
def Config.retrying (c : Config) (m : Message) (k : Nat) (failure : Executor.Failure) : Notice :=
  .retrying m.eventId k c.policy.maxAttempts (c.policy.backoffAfter k).wholeMillis failure

-- The attempts to write a message from number `k` on. There is one constructor for each way in
-- which the writing ends, and `again` for an attempt that is followed by another one.
inductive Insertion (c : Config) (ex : Executor σ) (m : Message) :
    Nat → Situation σ → Run σ → Prop
  | stopped {k s reason} :
    (s.scope.stopped? s.now = some reason) →
    Insertion c ex m k s (.ended (.error (.interrupted m.eventId reason)) [] s)
  | written {k s₁ s₂ reply rows} :
    (Attempt c ex m s₁ reply s₂) → (reply.answer = .ok rows) →
    Insertion c ex m k s₁ ⟨.ok (), [(c.call m s₁, reply)], [], s₂⟩
  | interrupted {k s₁ s₂ reply reason} :
    (Attempt c ex m s₁ reply s₂) → (reply.answer = .error (.interrupted reason)) →
    Insertion c ex m k s₁
      ⟨.error (.interrupted m.eventId reason), [(c.call m s₁, reply)], [], s₂⟩
  | exhausted {k s₁ s₂ reply failure} :
    (Attempt c ex m s₁ reply s₂) → (reply.answer = .error failure) → failure.isRetryable →
    (k = c.policy.maxAttempts) →
    Insertion c ex m k s₁
      ⟨.error (.retriesExhausted m.eventId c.maxRetries.toNat k failure), [(c.call m s₁, reply)],
        [.exhausted m.eventId k failure], s₂⟩
  | cut {k s₁ s₂ reply failure reason t} :
    (Attempt c ex m s₁ reply s₂) → (reply.answer = .error failure) → failure.isRetryable →
    (k < c.policy.maxAttempts) →
    (Retry.wait s₂.scope s₂.now (c.policy.backoffAfter k) = .error (reason, t)) →
    Insertion c ex m k s₁
      ⟨.error (.interrupted m.eventId reason), [(c.call m s₁, reply)], [c.retrying m k failure],
        { s₂ with now := t }⟩
  | again {k s₁ s₂ reply failure t r} :
    (Attempt c ex m s₁ reply s₂) → (reply.answer = .error failure) → failure.isRetryable →
    (k < c.policy.maxAttempts) →
    (Retry.wait s₂.scope s₂.now (c.policy.backoffAfter k) = .ok t) →
    (Insertion c ex m (k + 1) { s₂ with now := t } r) →
    Insertion c ex m k s₁ (r.prepend [(c.call m s₁, reply)] [c.retrying m k failure])

theorem insertFrom_insertion {left k : Nat} {s : Situation σ}
    (hk : left + k = c.policy.maxAttempts) : Insertion c ex m k s (insertFrom c ex m left k s) := by
  unfold insertFrom
  split
  case h_1 h => exact .stopped h
  case h_2 live =>
    have a : Attempt c ex m s (ex (c.call m s) s.store).1
      (.after (c.call m s) (ex (c.call m s) s.store).1 (ex (c.call m s) s.store).2) :=
      ⟨live, rfl, rfl, rfl⟩
    dsimp only
    split
    case h_1 h => exact .written a h
    case h_2 h => exact .interrupted a h
    case h_3 failure hi h =>
      have hf := Executor.Failure.isRetryable_of_not_interrupted hi
      cases left
      case zero => exact .exhausted a h hf (by omega)
      case succ left =>
        dsimp only
        split
        case h_1 hw => exact .cut a h hf (by omega) hw
        case h_2 hw => exact .again a h hf (by omega) hw (insertFrom_insertion (by omega))

theorem insert_insertion {s : Situation σ} : Insertion c ex m 1 s (insert c ex m s) :=
  insertFrom_insertion (Nat.sub_add_cancel c.policy.maxAttempts_pos)

-- The relation leaves no choice.
theorem Insertion.insertFrom_eq {left k : Nat} {s : Situation σ} {r : Run σ}
    (i : Insertion c ex m k s r) (hk : left + k = c.policy.maxAttempts) :
    insertFrom c ex m left k s = r := by
  induction i generalizing left
  case stopped h =>
    unfold insertFrom
    simp only [h]
  case written a ha =>
    unfold insertFrom
    simp only [a.live, a.answered, ha, a.situation_eq]
  case interrupted a ha =>
    unfold insertFrom
    simp only [a.live, a.answered, ha, a.situation_eq]
  case exhausted failure a ha hf hk' =>
    obtain rfl : left = 0 := by omega
    unfold insertFrom
    cases failure
    case interrupted => cases hf
    all_goals simp only [a.live, a.answered, ha, a.situation_eq]
  case cut failure _ _ a ha hf hk' hw =>
    obtain ⟨left, rfl⟩ : ∃ n, left = n + 1 := Nat.exists_eq_add_one.mpr (by omega)
    unfold insertFrom
    cases failure
    case interrupted => cases hf
    all_goals simp only [a.live, a.answered, ha, a.situation_eq, hw, Config.retrying]
  case again failure _ _ a ha hf hk' hw _ hi =>
    obtain ⟨left, rfl⟩ : ∃ n, left = n + 1 := Nat.exists_eq_add_one.mpr (by omega)
    unfold insertFrom
    cases failure
    case interrupted => cases hf
    all_goals simp only [a.live, a.answered, ha, a.situation_eq, hw, Config.retrying,
      hi (Nat.succ_add_eq_add_succ left _ ▸ hk)]

namespace Insertion

variable {k : Nat} {s : Situation σ} {r : Run σ} {failure : Failure}

theorem calls_eq (i : Insertion c ex m k s r) (e) (h : e ∈ r.calls) :
    e.1.statement = c.statement ∧ e.1.arguments = m.arguments := by
  induction i
  case stopped => simp at h
  case again hi =>
    simp only [Run.calls_prepend, List.cons_append, List.nil_append, List.mem_cons] at h
    cases h
    case inl h => exact h ▸ ⟨rfl, rfl⟩
    case inr h => exact hi h
  all_goals
    simp only [List.mem_singleton] at h
    exact h ▸ ⟨rfl, rfl⟩

theorem isRetryable_of_mem_dropLast (i : Insertion c ex m k s r) (e) (h : e ∈ r.calls.dropLast) :
    e.2.isRetryable := by
  induction i
  case again r _ ha hf _ _ _ hi =>
    cases hr : r.calls
    case nil => simp [hr] at h
    case cons =>
      simp only [Run.calls_prepend, hr, List.cons_append, List.nil_append, List.dropLast_cons_cons,
        List.mem_cons] at h hi
      cases h
      case inl h => exact h ▸ Reply.isRetryable_of_error ha hf
      case inr h => exact hi h
  all_goals simp at h

theorem length_calls_le (i : Insertion c ex m k s r) (hk : k ≤ c.policy.maxAttempts) :
    r.calls.length + k ≤ c.policy.maxAttempts + 1 := by
  induction i
  case again hk' _ _ hi =>
    have := hi hk'
    simp only [Run.calls_prepend, List.cons_append, List.nil_append, List.length_cons]
    omega
  all_goals simp; omega

theorem getLast?_isSuccess (i : Insertion c ex m k s r) (h : r.result = .ok ()) :
    ∃ e, r.calls.getLast? = some e ∧ e.2.isSuccess := by
  induction i
  case written ha => exact ⟨_, rfl, Reply.isSuccess_of_ok ha⟩
  case again hi =>
    have ⟨e, he, hs⟩ := hi h
    exact ⟨e, by simp [List.getLast?_cons, he], hs⟩
  all_goals simp at h

theorem isSuccess_eq_false (i : Insertion c ex m k s r) (h : r.result = .error failure) (e)
    (he : e ∈ r.calls) : e.2.isSuccess = false := by
  induction i
  case stopped => simp at he
  case written => simp at h
  case again ha _ _ _ _ hi =>
    simp only [Run.calls_prepend, List.cons_append, List.nil_append, List.mem_cons] at he
    cases he
    case inl he => exact he ▸ Reply.isSuccess_of_error ha
    case inr he => exact hi h he
  all_goals
    simp only [List.mem_singleton] at he
    exact he ▸ Reply.isSuccess_of_error ‹_›

end Insertion

end Publisher
end Outbox

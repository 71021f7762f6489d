import Outbox.Proofs.Publisher.Course
/-!
The calls that a publish call makes: some for the first message, then some for the second one, and
so on, as far as messages are reached.
-/

namespace Outbox.Publisher

open Executor (Call Reply)

variable {σ : Type} {c : Config} {ex : Executor σ} {s : Situation σ} {r : Run σ}
  {m : Message} {ms : List Message} {calls : List (Call × Reply)}
  {runs : List (List (Call × Reply))}

-- The calls for one message: the same call again and again, behind failures that can be retried.
structure Tries (c : Config) (m : Message) (calls : List (Call × Reply)) : Prop where
  ne_nil    : calls ≠ []
  call      : ∀ e ∈ calls, e.1.statement = c.statement ∧ e.1.arguments = m.arguments
  retryable : ∀ e ∈ calls.dropLast, e.2.isRetryable
  length_le : calls.length ≤ c.policy.maxAttempts

theorem Insertion.tries (i : Insertion c ex m 1 s r) (h : r.calls ≠ []) : Tries c m r.calls where
  ne_nil    := h
  call      := i.calls_eq
  retryable := i.isRetryable_of_mem_dropLast
  length_le := Nat.le_of_succ_le_succ <| i.length_calls_le c.policy.maxAttempts_pos

-- The calls for messages in order. A message is reached only if the one before it was written.
structure Trace (c : Config) (ms : List Message) (runs : List (List (Call × Reply))) : Prop where
  length_le : runs.length ≤ ms.length
  tries     : ∀ i, (h : i < runs.length) → (h' : i < ms.length) → Tries c ms[i] runs[i]
  success   : ∀ i, (h : i + 1 < runs.length) → ∃ e, runs[i].getLast? = some e ∧ e.2.isSuccess

namespace Trace

theorem nil : Trace c ms [] where
  length_le := Nat.zero_le _
  tries _ h := absurd h (Nat.not_lt_zero _)
  success _ h := absurd h (Nat.not_lt_zero _)

theorem single (t : Tries c m calls) : Trace c (m :: ms) [calls] where
  length_le := by simp
  tries i h _ := by
    cases Nat.lt_one_iff.mp h
    exact t
  success i h := absurd (Nat.lt_of_succ_lt_succ h) (Nat.not_lt_zero _)

theorem cons (t : Tries c m calls) (h : ∃ e, calls.getLast? = some e ∧ e.2.isSuccess)
    (ht : Trace c ms runs) : Trace c (m :: ms) (calls :: runs) where
  length_le := Nat.succ_le_succ ht.length_le
  tries i hi hi' := by
    cases i
    case zero => exact t
    case succ i => exact ht.tries i (Nat.lt_of_succ_lt_succ hi) (Nat.lt_of_succ_lt_succ hi')
  success i hi := by
    cases i
    case zero => exact h
    case succ i => exact ht.success i (Nat.lt_of_succ_lt_succ hi)

end Trace

theorem Course.trace (h : Course c ex ms s r) :
    ∃ runs, r.calls = runs.flatten ∧ Trace c ms runs := by
  induction h
  case done => exact ⟨[], rfl, .nil⟩
  case failed r _ i _ =>
    by_cases hc : r.calls = []
    case pos => exact ⟨[], hc, .nil⟩
    case neg => exact ⟨[r.calls], by simp, .single (i.tries hc)⟩
  case next r _ i h _ hi =>
    have ⟨runs, hr, ht⟩ := hi
    have hs := i.getLast?_isSuccess h
    have hc : r.calls ≠ [] := by
      intro hc
      simp [hc] at hs
    exact ⟨r.calls :: runs, by simp [hr], .cons (i.tries hc) hs ht⟩

-- The attempt counter, as it stands behind a notice: it is raised when an attempt is repeated.
def Notice.counter? : Notice → Option Nat
  | retrying _ attempt _ _ _ => some (attempt + 1)
  | exhausted _ attempts _   => some attempts
  | _                        => none

theorem Insertion.counter_le {k : Nat} (i : Insertion c ex m k s r) :
    ∀ n ∈ r.notices, ∀ k, n.counter? = some k → k ≤ c.policy.maxAttempts := by
  induction i
  case exhausted hk => simp [Notice.counter?, hk]
  case cut hk _ => simp [Notice.counter?, Config.retrying, Nat.succ_le_of_lt hk]
  case again hk _ _ hi =>
    simp only [Run.notices_prepend, List.cons_append, List.nil_append, List.forall_mem_cons]
    refine ⟨?_, hi⟩
    simp [Notice.counter?, Config.retrying, Nat.succ_le_of_lt hk]
  all_goals simp

theorem Course.counter_le (h : Course c ex ms s r) :
    ∀ n ∈ r.notices, ∀ k, n.counter? = some k → k ≤ c.policy.maxAttempts := by
  induction h
  case done => simp
  case failed i _ => exact i.counter_le
  case next i _ _ hi => exact List.forall_mem_append.mpr ⟨i.counter_le, hi⟩

theorem insertBatches_counter_le {count index : Nat} {batches : List (List Message)} :
    ∀ n ∈ (insertBatches c ex count index batches s).notices,
      ∀ k, n.counter? = some k → k ≤ c.policy.maxAttempts := by
  induction batches generalizing index s
  case nil => simp [insertBatches]
  case cons batch batches hi =>
    have h : Course c ex batch s _ := insertAll_course
    apply Run.forall_notices_andThen
    case h₁ => exact List.forall_mem_cons.mpr ⟨by simp [Notice.counter?], h.counter_le⟩
    case h₂ => exact fun _ => hi

theorem publish_counter_le :
    ∀ n ∈ (publish c ex ms s).notices, ∀ k, n.counter? = some k → k ≤ c.policy.maxAttempts := by
  unfold publish
  split
  case h_1 => simp
  case h_2 =>
    split
    case h_1 => simp [Notice.counter?]
    case h_2 =>
      apply Run.forall_notices_andThen
      case h₁ => exact insertBatches_counter_le
      case h₂ => simp [Notice.counter?]

theorem publish_trace (c : Config) (ex : Executor σ) (ms : List Message) (s : Situation σ) :
    ∃ runs, (publish c ex ms s).calls = runs.flatten ∧ Trace c ms runs ∧
      ((publish c ex ms s).calls ≠ [] → ∀ m ∈ ms, m.validate = .ok ()) := by
  cases exists_firstInvalid_or_forall_valid ms
  case inl h =>
    have ⟨_, _, h⟩ := h
    have hc : (publish c ex ms s).calls = [] := by simp [publish_of_firstInvalid h]
    exact ⟨[], hc, .nil, absurd hc⟩
  case inr h =>
    have ⟨_, hr, _, hc, _⟩ := publish_course c ex s h
    have ⟨runs, hf, t⟩ := hr.trace
    exact ⟨runs, hc.trans hf, t, fun _ => h⟩

-- A publish call makes one call after the other for each message that it reaches, and the messages
-- are reached in order. The attempts are counted up to a limit that 32 bits can hold, even if as
-- many retries are granted as 32 bits can count.
theorem publish_calls_in_order (c : Config) (ex : Executor σ) (ms : List Message)
    (s : Situation σ) :
    ∃ runs : List (List (Call × Reply)),
      (publish c ex ms s).calls = runs.flatten ∧ Trace c ms runs ∧
      (c.policy.maxAttempts = min (c.maxRetries.toNat + 1) (UInt32.size - 1)) ∧
      (∀ n ∈ (publish c ex ms s).notices, ∀ k, n.counter? = some k → k ≤ c.policy.maxAttempts) ∧
      ((publish c ex ms s).calls ≠ [] → ∀ m ∈ ms, m.validate = .ok ()) := by
  have ⟨runs, hf, t, hv⟩ := publish_trace c ex ms s
  exact ⟨runs, hf, t, rfl, publish_counter_le, hv⟩

end Outbox.Publisher

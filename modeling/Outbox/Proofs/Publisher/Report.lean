import Outbox.Proofs.Publisher.RowCount
import Outbox.Proofs.Retry.Backoff
/-!
What a publish call reports: the batches that are reached, the attempts that failed, and how the
call ended. All of it can be told from the calls that were made, their answers and the result.
-/

namespace Outbox

open Executor (Call Reply)

namespace Publisher

variable {σ : Type} {c : Config} {ex : Executor σ} {s : Situation σ} {r : Run σ} {m : Message}
  {ms : List Message} {calls calls' : List (Call × Reply)} {i k n : Nat}

-- What is reported when attempt number `k` to write a message is answered.
def Config.report? (c : Config) (m : Message) (k : Nat) (reply : Reply) : Option Notice :=
  match reply.answer with
  | .ok _                   => none
  | .error (.interrupted _) => none
  | .error failure          =>
    if k < c.policy.maxAttempts then
      some <| .retrying m.eventId k c.policy.maxAttempts
        (min (k * c.backoffUnit.nanos / Time.nanosPerMilli) (Time.countLimit - 1)) failure
    else some <| .exhausted m.eventId k failure

-- What is reported of the attempts to write a message from number `k` on.
def Config.reports (c : Config) (m : Message) (k : Nat) (calls : List (Call × Reply)) :
    List Notice :=
  (calls.zipIdx k).filterMap fun (e, k) => c.report? m k e.2

-- As many batches as it takes for `n` messages.
def Config.batchCount (c : Config) (n : Nat) : Nat :=
  (n + (c.batchSize - 1)) / c.batchSize

-- What is reported before the message number `i` of `n` is written, if a batch begins with it.
def Config.heading (c : Config) (n i : Nat) : List Notice :=
  if i % c.batchSize = 0 then
    [.batch (i / c.batchSize) (c.batchCount n) (min c.batchSize (n - i))]
  else []

-- How many messages are written: a message is done with its first success.
def writtenCount (calls : List (Call × Reply)) : Nat :=
  calls.countP (·.2.isSuccess)

-- All that is reported while messages are written of which the first is number `i` of `n`. One
-- message more is reached than are written, as far as there are messages.
def Config.account (c : Config) (n i : Nat) (ms : List Message) (calls : List (Call × Reply)) :
    List Notice :=
  (ms.take (writtenCount calls + 1)).zipIdx.flatMap fun (m, j) =>
    c.heading n (i + j) ++ c.reports m 1 (callsFor calls j)

-- What is reported at the end, if `n` messages were to be published.
def Config.closing (c : Config) (n : Nat) : Except Failure Unit → List Notice
  | .ok _    => [.published n (c.batchCount n) c.table]
  | .error _ => []

section Attempts

variable {s₁ s₂ : Situation σ} {reply : Reply} {failure : Executor.Failure}

theorem Config.report?_of_lt (ha : reply.answer = .error failure) (hf : failure.isRetryable)
    (hk : k < c.policy.maxAttempts) : c.report? m k reply = some (c.retrying m k failure) := by
  cases failure
  case interrupted => cases hf
  all_goals
    simp only [report?, ha, if_pos hk, retrying, Retry.Policy.wholeMillis_backoffAfter]
    rfl

theorem Config.report?_of_eq (ha : reply.answer = .error failure) (hf : failure.isRetryable)
    (hk : k = c.policy.maxAttempts) :
    c.report? m k reply = some (.exhausted m.eventId k failure) := by
  cases failure
  case interrupted => cases hf
  all_goals simp only [report?, ha, hk, Nat.lt_irrefl, if_false]

theorem Config.reports_cons {e : Call × Reply} :
    c.reports m k (e :: calls) = (c.report? m k e.2).toList ++ c.reports m (k + 1) calls := by
  cases h : c.report? m k e.2 <;> simp [reports, List.zipIdx_cons, h]

theorem Config.reports_nil : c.reports m k [] = [] := rfl

theorem Insertion.notices_eq (i : Insertion c ex m k s r) : r.notices = c.reports m k r.calls := by
  induction i
  case stopped => rfl
  case written ha => simp [Config.reports_cons, Config.reports_nil, Config.report?, ha]
  case interrupted ha => simp [Config.reports_cons, Config.reports_nil, Config.report?, ha]
  case exhausted ha hf hk =>
    simp [Config.reports_cons, Config.reports_nil, Config.report?_of_eq ha hf hk]
  case cut ha hf hk _ =>
    simp [Config.reports_cons, Config.reports_nil, Config.report?_of_lt ha hf hk]
  case again ha hf hk _ _ hi =>
    simp [Config.reports_cons, Config.report?_of_lt ha hf hk, hi]

end Attempts

section Batches

-- Writes messages of which the first is number `i` of `n`. Batches are nothing but headings.
def insertHeaded (c : Config) (ex : Executor σ) (n : Nat) :
    Nat → List Message → Situation σ → Run σ
  | _, [], s      => .ended (.ok ()) [] s
  | i, m :: ms, s =>
    ((insert c ex m s).prepend [] (c.heading n i)).andThen (insertHeaded c ex n (i + 1) ms)

theorem Run.prepend_nil : r.prepend [] [] = r := rfl

theorem Run.andThen_prepend {notices : List Notice} {next : Situation σ → Run σ} :
    (r.prepend [] notices).andThen next = (r.andThen next).prepend [] notices := by
  cases h : r.result <;> simp [andThen, prepend, h]

theorem insertHeaded_append {ms' : List Message} :
    insertHeaded c ex n i (ms ++ ms') s =
      (insertHeaded c ex n i ms s).andThen (insertHeaded c ex n (i + ms.length) ms') := by
  induction ms generalizing i s
  case nil => rfl
  case cons m ms hi =>
    have hn : i + (ms.length + 1) = i + 1 + ms.length := by omega
    simp only [List.cons_append, insertHeaded, Run.andThen_assoc, List.length_cons, hn]
    congr
    funext s
    exact hi

-- Within a batch there are no headings.
theorem insertHeaded_eq_insertAll (h : ∀ j < ms.length, (i + j) % c.batchSize ≠ 0) :
    insertHeaded c ex n i ms s = insertAll c ex ms s := by
  induction ms generalizing i s
  case nil => rfl
  case cons m ms hi =>
    have hh : c.heading n i = [] := if_neg (h 0 (Nat.zero_lt_succ _))
    have hi : insertHeaded c ex n (i + 1) ms = insertAll c ex ms := by
      funext s
      refine hi fun j hj => ?_
      rw [Nat.add_assoc, Nat.add_comm 1]
      exact h (j + 1) (Nat.succ_lt_succ hj)
    rw [insertHeaded, insertAll, hh, hi, Run.prepend_nil]

theorem insertHeaded_batch {index : Nat} {batch : List Message} (hn : batch ≠ [])
    (hl : batch.length = min c.batchSize (n - index * c.batchSize)) :
    insertHeaded c ex n (index * c.batchSize) batch s =
      (insertAll c ex batch s).prepend [] [.batch index (c.batchCount n) batch.length] := by
  obtain ⟨m, ms, rfl⟩ := List.exists_cons_of_ne_nil hn
  have hh : c.heading n (index * c.batchSize) =
      [.batch index (c.batchCount n) (m :: ms).length] := by
    rw [Config.heading, if_pos (Nat.mul_mod_left ..), Nat.mul_div_cancel _ c.batchSize_pos, hl]
  have hr : insertHeaded c ex n (index * c.batchSize + 1) ms = insertAll c ex ms := by
    funext s
    refine insertHeaded_eq_insertAll fun j hj => ?_
    have : 1 + j < c.batchSize := by simp only [List.length_cons] at hl; omega
    rw [Nat.add_assoc, Nat.mul_add_mod_of_lt this]
    omega
  rw [insertHeaded, insertAll, hh, hr, Run.andThen_prepend]

theorem insertBatches_eq_insertHeaded {index : Nat}
    (hn : ms ≠ [] → n = index * c.batchSize + ms.length) :
    insertBatches c ex (c.batchCount n) index (chunks c.batchSize c.batchSize_pos ms) s =
      insertHeaded c ex n (index * c.batchSize) ms s := by
  fun_induction chunks c.batchSize c.batchSize_pos ms generalizing index s
  case case1 => rfl
  case case2 m ms hi =>
    have hn := hn (List.cons_ne_nil m ms)
    have hl : ((m :: ms).take c.batchSize).length =
        min c.batchSize (n - index * c.batchSize) := by
      rw [List.length_take, hn, Nat.add_sub_cancel_left]
    have hne : (m :: ms).take c.batchSize ≠ [] := by
      simp [Nat.ne_of_gt c.batchSize_pos]
    -- Further messages begin with the next batch.
    have hr : insertBatches c ex (c.batchCount n) (index + 1)
        (chunks c.batchSize c.batchSize_pos ((m :: ms).drop c.batchSize)) =
          insertHeaded c ex n (index * c.batchSize + ((m :: ms).take c.batchSize).length)
            ((m :: ms).drop c.batchSize) := by
      funext s
      by_cases hd : (m :: ms).drop c.batchSize = []
      case pos =>
        rw [hd, chunks]
        rfl
      case neg =>
        have hb : c.batchSize < (m :: ms).length := by simpa using hd
        rw [List.length_take, Nat.min_eq_left (Nat.le_of_lt hb), ← Nat.succ_mul]
        refine hi fun _ => ?_
        rw [List.length_drop, hn, Nat.succ_mul]
        omega
    rw [insertBatches, ← insertHeaded_batch hne hl, hr, ← insertHeaded_append,
      List.take_append_drop]

theorem length_chunks :
    (chunks c.batchSize c.batchSize_pos ms).length = c.batchCount ms.length := by
  have hb := c.batchSize_pos
  fun_induction chunks c.batchSize c.batchSize_pos ms
  case case1 =>
    have : 0 + (c.batchSize - 1) < c.batchSize := by omega
    exact (Nat.div_eq_of_lt this).symm
  case case2 m ms hi =>
    simp only [List.length_cons, List.length_drop, hi, Config.batchCount, ← Nat.add_div_right _ hb]
    by_cases hl : ms.length + 1 ≤ c.batchSize
    case pos =>
      have h₁ : ms.length + 1 - c.batchSize + (c.batchSize - 1) < c.batchSize := by omega
      have h₂ : ms.length + 1 + (c.batchSize - 1) = ms.length + c.batchSize := by omega
      rw [h₂, Nat.add_div_right _ hb, Nat.add_div_right _ hb, Nat.div_eq_of_lt h₁,
        Nat.div_eq_of_lt (Nat.lt_of_succ_le hl)]
    case neg => congr 1; omega

end Batches

section Course

theorem Insertion.writtenCount_of_ok (i : Insertion c ex m k s r) (h : r.result = .ok ()) :
    writtenCount r.calls = 1 := by
  obtain ⟨e, he, hs⟩ := i.getLast?_isSuccess h
  obtain ⟨before, hb⟩ := List.getLast?_eq_some_iff.mp he
  have hd : ∀ e ∈ before, e.2.isSuccess = false := by
    have := i.isSuccess_of_mem_dropLast
    rwa [hb, List.dropLast_concat] at this
  have hz : before.countP (·.2.isSuccess) = 0 := by
    rw [List.countP_eq_zero]
    exact fun e he => by simp [hd e he]
  simp [writtenCount, hb, hz, hs]

theorem writtenCount_of_unsuccessful (h : ∀ e ∈ calls, e.2.isSuccess = false) :
    writtenCount calls = 0 := by
  rw [writtenCount, List.countP_eq_zero]
  exact fun e he => by simp [h e he]

theorem Config.account_cons_of_unsuccessful (h : ∀ e ∈ calls, e.2.isSuccess = false) :
    c.account n i (m :: ms) calls = c.heading n i ++ c.reports m 1 calls := by
  simp [account, writtenCount_of_unsuccessful h, callsFor_of_unsuccessful h]

theorem Config.account_cons_of_written (h : ∀ e ∈ calls.dropLast, e.2.isSuccess = false)
    (hs : ∃ e, calls.getLast? = some e ∧ e.2.isSuccess) (hw : writtenCount calls = 1) :
    c.account n i (m :: ms) (calls ++ calls') =
      c.heading n i ++ c.reports m 1 calls ++ c.account n (i + 1) ms calls' := by
  have hc : writtenCount (calls ++ calls') = writtenCount calls' + 1 := by
    rw [writtenCount, List.countP_append, ← writtenCount, ← writtenCount, hw, Nat.add_comm]
  simp only [account, hc, List.take_succ_cons, List.zipIdx_cons, List.zipIdx_succ,
    List.flatMap_cons, List.flatMap_map, callsFor_append_zero h hs, callsFor_append_succ h hs,
    Nat.add_zero, ← Nat.add_assoc, Nat.add_right_comm]

theorem insertHeaded_notices :
    (insertHeaded c ex n i ms s).notices =
      c.account n i ms (insertHeaded c ex n i ms s).calls := by
  induction ms generalizing i s
  case nil => rfl
  case cons m ms hi =>
    have j : Insertion c ex m 1 s (insert c ex m s) := insert_insertion
    rw [insertHeaded, Run.andThen_prepend]
    cases h : (insert c ex m s).result
    case error =>
      rw [Run.andThen_of_error h, Run.calls_prepend, List.nil_append,
        Config.account_cons_of_unsuccessful (j.isSuccess_eq_false h), ← j.notices_eq]
      rfl
    case ok =>
      rw [Run.andThen_of_ok h, Run.calls_prepend, List.nil_append, Run.calls_prepend,
        Config.account_cons_of_written j.isSuccess_of_mem_dropLast (j.getLast?_isSuccess h)
          (j.writtenCount_of_ok h), ← j.notices_eq, ← hi]
      simp

end Course

section Result

-- The error that is reported for a result.
def exhaustion : Except Failure Unit → List Notice
  | .error (.retriesExhausted id _ attempts source) => [.exhausted id attempts source]
  | _                                               => []

theorem Insertion.errors_eq (i : Insertion c ex m k s r) :
    r.notices.filter (·.event.level = .error) = exhaustion r.result := by
  induction i
  case again hi => simpa [Config.retrying, Notice.event] using hi
  all_goals simp [Config.retrying, Notice.event, exhaustion]

-- Notices of one level are all kept, or none of them.
theorem filter_level {notices : List Notice} {level : Log.Level} (level' : Log.Level)
    (h : ∀ x ∈ notices, x.event.level = level) :
    notices.filter (·.event.level = level') = if level = level' then notices else [] := by
  split
  case isTrue he => exact List.filter_eq_self.mpr fun x hx => by simp [h x hx, he]
  case isFalse he => exact List.filter_eq_nil_iff.mpr fun x hx => by simp [h x hx, he]

theorem Config.level_of_mem_heading : ∀ x ∈ c.heading n i, x.event.level = .debug := by
  unfold heading
  split
  case isTrue => simp [Notice.event]
  case isFalse => simp

theorem insertHeaded_errors :
    (insertHeaded c ex n i ms s).notices.filter (·.event.level = .error) =
      exhaustion (insertHeaded c ex n i ms s).result := by
  induction ms generalizing i s
  case nil => rfl
  case cons m ms hi =>
    have j : Insertion c ex m 1 s (insert c ex m s) := insert_insertion
    have hh : (c.heading n i).filter (·.event.level = .error) = [] :=
      filter_level .error Config.level_of_mem_heading
    rw [insertHeaded, Run.andThen_prepend]
    cases h : (insert c ex m s).result
    case error =>
      rw [Run.andThen_of_error h, Run.notices_prepend, List.filter_append, hh, j.errors_eq]
      rfl
    case ok =>
      rw [Run.andThen_of_ok h, Run.notices_prepend, Run.notices_prepend, List.filter_append,
        List.filter_append, hh, j.errors_eq, h, hi]
      rfl

theorem Config.level_of_mem_reports :
    ∀ x ∈ c.reports m k calls, x.event.level = .warn ∨ x.event.level = .error := by
  intro x hx
  obtain ⟨⟨e, k⟩, _, hx⟩ := List.mem_filterMap.mp hx
  change c.report? m k e.2 = some x at hx
  unfold report? at hx
  split at hx
  case h_1 => cases hx
  case h_2 => cases hx
  case h_3 =>
    split at hx
    case isTrue =>
      cases hx
      exact .inl rfl
    case isFalse =>
      cases hx
      exact .inr rfl

-- Nothing else is reported in debugging than that batches begin.
theorem Config.batches_account :
    (c.account n i ms calls).filter (·.event.level = .debug) =
      (List.range (min (writtenCount calls + 1) ms.length)).flatMap fun j =>
        c.heading n (i + j) := by
  have h (m : Message) (j : Nat) :
      (c.heading n (i + j) ++ c.reports m 1 (callsFor calls j)).filter (·.event.level = .debug) =
        c.heading n (i + j) := by
    have hh : (c.heading n (i + j)).filter (·.event.level = .debug) = c.heading n (i + j) :=
      filter_level .debug level_of_mem_heading
    have hr : (c.reports m 1 (callsFor calls j)).filter (·.event.level = .debug) = [] := by
      rw [List.filter_eq_nil_iff]
      intro x hx
      cases level_of_mem_reports x hx <;> simp_all
    rw [List.filter_append, hh, hr, List.append_nil]
  rw [account, List.filter_flatMap]
  simp only [h]
  rw [← List.length_take, List.range_eq_range', ← List.zipIdx_map_snd 0, List.flatMap_map]

theorem Config.level_of_mem_account : ∀ x ∈ c.account n i ms calls, x.event.level ≠ .info := by
  intro x hx
  obtain ⟨_, _, hx⟩ := List.mem_flatMap.mp hx
  cases List.mem_append.mp hx
  case inl hx => simp [level_of_mem_heading x hx]
  case inr hx => cases level_of_mem_reports x hx <;> simp_all

theorem Config.level_of_mem_closing {result : Except Failure Unit} :
    ∀ x ∈ c.closing n result, x.event.level = .info := by
  cases result <;> simp [closing, Notice.event]

theorem Config.batchCount_succ : c.batchCount (k + 1) = k / c.batchSize + 1 := by
  have hb := c.batchSize_pos
  have hk : k + 1 + (c.batchSize - 1) = k + c.batchSize := by omega
  rw [batchCount, hk, Nat.add_div_right _ hb]

theorem Config.batchCount_of_mod_eq_zero (h : k % c.batchSize = 0) :
    c.batchCount k = k / c.batchSize := by
  have hb := c.batchSize_pos
  obtain ⟨q, rfl⟩ := Nat.dvd_of_mod_eq_zero h
  have hl : c.batchSize - 1 < c.batchSize := by omega
  rw [batchCount, Nat.mul_add_div hb, Nat.div_eq_of_lt hl, Nat.mul_div_cancel_left _ hb,
    Nat.add_zero]

theorem Config.batchCount_of_mod_ne_zero (h : k % c.batchSize ≠ 0) :
    c.batchCount k = k / c.batchSize + 1 := by
  obtain _ | k := k
  case zero => simp at h
  case succ =>
    rw [batchCount_succ, Nat.succ_div_of_not_dvd]
    exact fun hd => h (Nat.mod_eq_zero_of_dvd hd)

-- Among the first `k` messages as many batches begin as these messages make up.
theorem Config.flatMap_heading :
    (List.range k).flatMap (c.heading n) =
      (List.range (c.batchCount k)).map fun q =>
        .batch q (c.batchCount n) (min c.batchSize (n - q * c.batchSize)) := by
  induction k
  case zero => rw [batchCount_of_mod_eq_zero (Nat.zero_mod _), Nat.zero_div]; rfl
  case succ k hi =>
    rw [List.range_succ, List.flatMap_append, hi, batchCount_succ, List.flatMap_singleton, heading]
    split
    case isTrue h =>
      have hk : k / c.batchSize * c.batchSize = k := Nat.div_mul_cancel (Nat.dvd_of_mod_eq_zero h)
      rw [batchCount_of_mod_eq_zero h, List.range_succ, List.map_append, List.map_singleton, hk]
    case isFalse h => rw [batchCount_of_mod_ne_zero h, List.append_nil]

-- Which messages are written can be told from how many are.
theorem Course.written_iff {j : Nat} (h : Course c ex ms s r) :
    Written r.calls j ↔ j < writtenCount r.calls := by
  induction h generalizing j
  case done => simp [Written, callsFor, byMessage, writtenCount]
  case failed r _ i hr =>
    have hu := i.isSuccess_eq_false hr
    rw [writtenCount_of_unsuccessful hu]
    refine iff_of_false (fun hw => ?_) (Nat.not_lt_zero j)
    obtain ⟨e, he, hs⟩ := hw
    rw [hu e (mem_of_mem_callsFor he)] at hs
    cases hs
  case next r r' i hr _ hi =>
    have hd := i.isSuccess_of_mem_dropLast
    have hs := i.getLast?_isSuccess hr
    have hc : writtenCount (r.calls ++ r'.calls) = writtenCount r'.calls + 1 := by
      rw [writtenCount, List.countP_append, ← writtenCount, ← writtenCount,
        i.writtenCount_of_ok hr, Nat.add_comm]
    rw [Run.calls_prepend, hc]
    cases j
    case zero => exact iff_of_true (written_append_zero hd hs) (Nat.zero_lt_succ _)
    case succ j => rw [written_append_succ hd hs, hi, Nat.succ_lt_succ_iff]

theorem FirstUnwritten.writtenCount_eq {j : Nat} (hu : FirstUnwritten calls j)
    (h : ∀ j, Written calls j ↔ j < writtenCount calls) : writtenCount calls = j := by
  refine Nat.le_antisymm (Nat.le_of_not_lt (mt (h j).mpr hu.unwritten)) ?_
  cases j
  case zero => exact Nat.zero_le _
  case succ j => exact (h j).mp (hu.written j (Nat.lt_succ_self j))

-- The number of the attempt that is repeated.
def Notice.attempt? : Notice → Option Nat
  | retrying _ attempt _ _ _ => some attempt
  | _                        => none

theorem Config.attempt?_report? {reply : Reply} :
    (c.report? m k reply).toList.filterMap Notice.attempt? =
      if reply.isRetryable && k < c.policy.maxAttempts then [k] else [] := by
  unfold report?
  split
  case h_1 ha => simp [Reply.isRetryable, ha]
  case h_2 ha => simp [Reply.isRetryable_of_interrupted ha]
  case h_3 failure hi ha =>
    have hf : failure.isRetryable := Executor.Failure.isRetryable_of_not_interrupted hi
    rw [Reply.isRetryable_of_error ha hf]
    split
    case isTrue hk => simp [Notice.attempt?, hk]
    case isFalse hk => simp [Notice.attempt?, hk]

-- If all answers but the last one can be retried, the attempts that are repeated are numbered
-- without gaps.
theorem Config.attempts_reports (h : ∀ e ∈ calls.dropLast, e.2.isRetryable) :
    (c.reports m k calls).filterMap Notice.attempt? =
      List.range' k ((calls.take (c.policy.maxAttempts - k)).countP (·.2.isRetryable)) := by
  induction calls generalizing k
  case nil => simp [reports_nil]
  case cons e calls hi =>
    rw [reports_cons, List.filterMap_append, attempt?_report?]
    cases calls
    case nil =>
      by_cases hk : k < c.policy.maxAttempts
      case pos =>
        have h₁ : c.policy.maxAttempts - k = c.policy.maxAttempts - (k + 1) + 1 := by omega
        cases hr : e.2.isRetryable <;> simp [reports_nil, hr, hk, h₁]
      case neg =>
        have h₁ : c.policy.maxAttempts - k = 0 := by omega
        simp [reports_nil, hk, h₁]
    case cons e' calls =>
      rw [List.dropLast_cons_cons, List.forall_mem_cons] at h
      rw [hi h.2]
      by_cases hk : k < c.policy.maxAttempts
      case pos =>
        have h₁ : c.policy.maxAttempts - k = c.policy.maxAttempts - (k + 1) + 1 := by omega
        rw [h₁, List.take_succ_cons, List.countP_cons, if_pos h.1, List.range'_succ]
        simp [h.1, hk]
      case neg =>
        have h₁ : c.policy.maxAttempts - k = 0 := by omega
        have h₂ : c.policy.maxAttempts - (k + 1) = 0 := by omega
        simp [hk, h₁, h₂]

end Result

theorem publish_eq_insertHeaded (hn : ms ≠ []) (h : ∀ m ∈ ms, m.validate = .ok ()) :
    let r := insertHeaded c ex ms.length 0 ms s
    (publish c ex ms s).result = r.result ∧ (publish c ex ms s).calls = r.calls ∧
      (publish c ex ms s).notices = r.notices ++ c.closing ms.length r.result := by
  intro r
  have hb : insertBatches c ex (c.batchCount ms.length) 0
      (chunks c.batchSize c.batchSize_pos ms) s = r := by
    have hi : ms ≠ [] → ms.length = 0 * c.batchSize + ms.length := fun _ => by omega
    rw [insertBatches_eq_insertHeaded hi, Nat.zero_mul]
  have hp : publish c ex ms s = r.andThen fun s =>
      .ended (.ok ()) [.published ms.length (c.batchCount ms.length) c.table] s := by
    obtain ⟨m, ms, rfl⟩ := List.exists_cons_of_ne_nil hn
    simp only [publish, firstInvalid?_eq_none_iff.mpr h, length_chunks, hb]
  rw [hp]
  cases hr : r.result
  case error => simp [Run.andThen_of_error hr, hr, Config.closing]
  case ok => simp [Run.andThen_of_ok hr, Config.closing]

end Publisher
end Outbox

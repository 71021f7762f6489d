import Outbox.Proofs.Store.Memory
/-!
What a publish call does to a table in memory if nothing stops it: which rows are added, which
failures are left over and which attempts are recorded.
-/

namespace Outbox

-- A scope that never stops.
def Scope.Endless (scope : Scope) : Prop :=
  ∀ t, scope.stopped? t = none

namespace Scope.Endless

variable {scope : Scope}

theorem cancelledFrom_eq_none (h : scope.Endless) : scope.cancelledFrom = none := by
  cases hc : scope.cancelledFrom
  case none => rfl
  case some t => simpa [stopped?, isCancelled, hc] using h t

theorem deadline_eq_none (h : scope.Endless) : scope.deadline = none := by
  cases hd : scope.deadline
  case none => rfl
  case some t => simpa [stopped?, isCancelled, h.cancelledFrom_eq_none, isExpired, hd] using h t

theorem awaitStop_eq_none (h : scope.Endless) (now : Instant) : scope.awaitStop now = none := by
  simp [awaitStop, stopInstant?, h.cancelledFrom_eq_none, h.deadline_eq_none, earlier]

-- Who waits in such a scope is not disturbed.
theorem wait_ne_error (h : scope.Endless) {now : Instant} {backoff : Time.Duration}
    {e : Stop × Instant} : Retry.wait scope now backoff ≠ .error e := by
  unfold Retry.wait
  split
  case isTrue => simp [h now]
  case isFalse => simp [race, h now, h.awaitStop_eq_none]

end Scope.Endless

namespace Store.Memory

variable {mem : Memory} {id : String} {row : Row} {left : Nat}

instance : Decidable (mem.Refuses id) :=
  inferInstanceAs (Decidable (_ ∨ _))

-- Inserts a row, and tries up to `left` further times if that fails.
def insertUpTo (id : String) (row : Row) : Nat → Memory → Except Executor.Failure Nat × Memory
  | 0, mem => mem.insert id row
  | left + 1, mem =>
    match mem.insert id row with
    | (.ok count, mem) => (.ok count, mem)
    | (.error _, mem)  => insertUpTo id row left mem

theorem insertUpTo_of_ok {mem' : Memory} {count : Nat} (h : mem.insert id row = (.ok count, mem')) :
    insertUpTo id row left mem = (.ok count, mem') := by
  cases left
  case zero => exact h
  case succ => simp only [insertUpTo, h]

theorem insertUpTo_of_error {mem' : Memory} {failure : Executor.Failure}
    (h : mem.insert id row = (.error failure, mem')) :
    insertUpTo id row (left + 1) mem = insertUpTo id row left mem' := by
  simp only [insertUpTo, h]

-- If there are failures for all attempts, all attempts fail.
theorem insertUpTo_scripted (h : left < mem.failNext) :
    insertUpTo id row left mem =
      (.error (.database "scripted failure"),
        mem.grow [] (mem.failNext - (left + 1)) (.replicate (left + 1) id)) := by
  induction left generalizing mem
  case zero => exact insert_scripted h
  case succ left hi =>
    have hn : 0 < mem.failNext := Nat.zero_lt_of_lt h
    rw [insertUpTo_of_error (insert_scripted hn), hi (by simp; omega)]
    simp only [failNext_grow, grow_grow, List.replicate_succ (n := left + 1)]
    congr 2
    omega

-- An id that is refused is called for until no attempts are left.
theorem insertUpTo_refused (h : mem.failNext ≤ left) (hr : mem.Refuses id) :
    insertUpTo id row left mem =
      (.error (mem.complaint id), mem.grow [] 0 (.replicate (left + 1) id)) := by
  induction left generalizing mem
  case zero => exact insert_refused (Nat.le_zero.mp h) hr
  case succ left hi =>
    by_cases hn : 0 < mem.failNext
    case pos =>
      rw [insertUpTo_of_error (insert_scripted hn), hi (by simp; omega) (by simpa)]
      simp [List.replicate_succ]
    case neg =>
      have hn := Nat.eq_zero_of_not_pos hn
      rw [insertUpTo_of_error (insert_refused hn hr), hi (by simp) (by simpa)]
      simp [List.replicate_succ]

-- Any other id is called for once behind the failures.
theorem insertUpTo_accepted (h : mem.failNext ≤ left) (hr : ¬mem.Refuses id) :
    insertUpTo id row left mem =
      (.ok 1, mem.grow [row] 0 (.replicate (mem.failNext + 1) id)) := by
  induction left generalizing mem
  case zero =>
    have hn := Nat.le_zero.mp h
    rw [hn]
    exact insert_accepted hn hr
  case succ left hi =>
    by_cases hn : 0 < mem.failNext
    case pos =>
      rw [insertUpTo_of_error (insert_scripted hn), hi (by simp; omega) (by simpa)]
      simp [Nat.sub_add_cancel hn, List.replicate_succ]
    case neg =>
      have hn := Nat.eq_zero_of_not_pos hn
      rw [insertUpTo_of_ok (insert_accepted hn hr)]
      simp [hn]

end Store.Memory

namespace Publisher

open Store (Memory)

variable {c : Config} {m : Message} {ms : List Message} {s : Situation Memory} {r : Run Memory}

-- The result for a message, if all attempts were made or one succeeded, told by the last answer.
def Config.verdict (c : Config) (m : Message) : Except Executor.Failure Nat → Except Failure Unit
  | .ok _          => .ok ()
  | .error failure =>
    .error (.retriesExhausted m.eventId c.maxRetries.toNat c.policy.maxAttempts failure)

-- What a run that nothing stops makes of a table is what repeated insertions make of it.
theorem Insertion.eq_insertUpTo {k left : Nat} {answer : Except Executor.Failure Nat}
    {mem : Memory} (i : Insertion c Memory.execute m k s r) (hs : s.scope.Endless)
    (hk : left + k = c.policy.maxAttempts)
    (h : Memory.insertUpTo m.eventId (c.row m) left s.store = (answer, mem)) :
    r.final.store = mem ∧ r.final.scope = s.scope ∧ r.result = c.verdict m answer := by
  -- The attempts that are made and those that are left make up the limit all along.
  induction i generalizing left
  case stopped h' => simp [hs _] at h'
  case written a ha =>
    rw [Memory.insertUpTo_of_ok (ha ▸ a.insert_eq)] at h
    cases h
    exact ⟨rfl, a.scope_eq, rfl⟩
  case interrupted a ha =>
    cases Memory.insert_cases a.insert_eq
    case inl h' => cases ha.symm.trans h'.1
    case inr h' =>
      have ⟨_, h', _⟩ := h'
      cases ha.symm.trans h'
  case exhausted a ha _ hk' =>
    obtain rfl : left = 0 := by omega
    cases h.symm.trans a.insert_eq
    exact ⟨rfl, a.scope_eq, by simp [Config.verdict, ha, hk']⟩
  case cut a _ _ _ hw => exact absurd (a.scope_eq ▸ hw) hs.wait_ne_error
  case again k _ _ _ _ _ _ a ha _ hk' _ _ hi =>
    obtain ⟨left, rfl⟩ : ∃ n, left = n + 1 := Nat.exists_eq_add_one.mpr (by omega)
    rw [Memory.insertUpTo_of_error (ha ▸ a.insert_eq)] at h
    have := hi (a.scope_eq.symm ▸ hs) (by omega) h
    rwa [a.scope_eq] at this

-- The message with the number `j` cannot be written: calls for its id fail, or the id is in the
-- table, or it is also the id of an earlier message.
def Blocked (mem : Memory) (ms : List Message) (j : Nat) : Prop :=
  ∃ h : j < ms.length, mem.Refuses ms[j].eventId ∨ ms[j].eventId ∈ (ms.take j).map (·.eventId)

instance {mem : Memory} {j : Nat} : Decidable (Blocked mem ms j) :=
  inferInstanceAs (Decidable (∃ _, _))

def firstBlocked? (mem : Memory) (ms : List Message) : Option Nat :=
  (List.range ms.length).find? fun j => Blocked mem ms j

section

variable {mem : Memory} {n j : Nat} {ids : List String}

theorem blocked_zero_iff : Blocked mem (m :: ms) 0 ↔ mem.Refuses m.eventId := by
  simp [Blocked]

-- A row that is added blocks later messages with its id, as the message itself did.
theorem blocked_succ_iff :
    Blocked mem (m :: ms) (j + 1) ↔ Blocked (mem.grow [c.row m] n ids) ms j := by
  simp [Blocked, Memory.refuses_grow, or_assoc]

variable (c n ids) in
theorem firstBlocked?_cons :
    firstBlocked? mem (m :: ms) =
      if mem.Refuses m.eventId then some 0
      else (firstBlocked? (mem.grow [c.row m] n ids) ms).map (· + 1) := by
  simp only [firstBlocked?, List.length_cons, List.range_succ_eq_map, List.find?_cons,
    List.find?_map, blocked_zero_iff]
  split
  case h_1 h => simp [of_decide_eq_true h]
  case h_2 h =>
    rw [if_neg (of_decide_eq_false h)]
    congr
    funext j
    exact decide_eq_decide.mpr blocked_succ_iff

end

-- The failures that are left over when messages were written, of `k` failures before.
def leftOver (k : Nat) : List Message → Nat
  | []     => k
  | _ :: _ => 0

-- The ids of the calls that write messages behind `k` failures: the failures meet the first one.
def calledIds (k : Nat) : List Message → List String
  | []      => []
  | m :: ms => .replicate (k + 1) m.eventId ++ ms.map (·.eventId)

@[simp] theorem leftOver_cons {k : Nat} : leftOver k (m :: ms) = 0 := rfl

@[simp] theorem calledIds_nil {k : Nat} : calledIds k [] = [] := rfl

@[simp] theorem calledIds_cons {k : Nat} :
    calledIds k (m :: ms) = .replicate (k + 1) m.eventId ++ ms.map (·.eventId) := rfl

@[simp] theorem leftOver_zero : leftOver 0 ms = 0 := by
  cases ms <;> rfl

@[simp] theorem calledIds_zero : calledIds 0 ms = ms.map (·.eventId) := by
  cases ms <;> rfl

theorem length_calledIds {k : Nat} (h : ms ≠ []) : (calledIds k ms).length = k + ms.length := by
  cases ms
  case nil => exact absurd rfl h
  case cons =>
    simp
    omega

-- The three ways in which the writing of a message goes that nothing stops.

theorem Insertion.scripted (i : Insertion c Memory.execute m 1 s r) (hs : s.scope.Endless)
    (hk : c.policy.maxAttempts ≤ s.store.failNext) :
    r.final.store = s.store.grow [] (s.store.failNext - c.policy.maxAttempts)
      (.replicate c.policy.maxAttempts m.eventId) ∧
    r.final.scope = s.scope ∧ r.result = c.verdict m (.error (.database "scripted failure")) := by
  have hA := Nat.sub_add_cancel c.policy.maxAttempts_pos
  have h := i.eq_insertUpTo hs hA (Memory.insertUpTo_scripted (by omega))
  rwa [hA] at h

theorem Insertion.refused (i : Insertion c Memory.execute m 1 s r) (hs : s.scope.Endless)
    (hk : s.store.failNext < c.policy.maxAttempts) (hr : s.store.Refuses m.eventId) :
    r.final.store = s.store.grow [] 0 (.replicate c.policy.maxAttempts m.eventId) ∧
    r.final.scope = s.scope ∧ r.result = c.verdict m (.error (s.store.complaint m.eventId)) := by
  have hA := Nat.sub_add_cancel c.policy.maxAttempts_pos
  have h := i.eq_insertUpTo hs hA (Memory.insertUpTo_refused (by omega) hr)
  rwa [hA] at h

theorem Insertion.accepted (i : Insertion c Memory.execute m 1 s r) (hs : s.scope.Endless)
    (hk : s.store.failNext < c.policy.maxAttempts) (hr : ¬s.store.Refuses m.eventId) :
    r.final.store = s.store.grow [c.row m] 0 (.replicate (s.store.failNext + 1) m.eventId) ∧
    r.final.scope = s.scope ∧ r.result = .ok () :=
  i.eq_insertUpTo hs (Nat.sub_add_cancel c.policy.maxAttempts_pos)
    (Memory.insertUpTo_accepted (by omega) hr)

-- If there are failures for all attempts, the first message is given up.
theorem Course.scripted (h : Course c Memory.execute (m :: ms) s r) (hs : s.scope.Endless)
    (hk : c.policy.maxAttempts ≤ s.store.failNext) :
    r.result = c.verdict m (.error (.database "scripted failure")) ∧
    r.final.store = s.store.grow [] (s.store.failNext - c.policy.maxAttempts)
      (.replicate c.policy.maxAttempts m.eventId) := by
  cases h
  case failed _ i =>
    have ⟨hm, _, hr⟩ := i.scripted hs hk
    exact ⟨hr, hm⟩
  case next h _ i =>
    have ⟨_, _, hr⟩ := i.scripted hs hk
    cases h.symm.trans hr

-- If no message is blocked, all of them are written.
theorem Course.unblocked (h : Course c Memory.execute ms s r) (hs : s.scope.Endless)
    (hk : s.store.failNext < c.policy.maxAttempts) (hb : firstBlocked? s.store ms = none) :
    r.result = .ok () ∧
    r.final.store = s.store.grow (ms.map c.row) (leftOver s.store.failNext ms)
      (calledIds s.store.failNext ms) := by
  induction h
  case done => exact ⟨rfl, by simp [leftOver]⟩
  case failed m _ s _ _ i h =>
    rw [firstBlocked?_cons c 0 []] at hb
    split at hb
    case isTrue => cases hb
    case isFalse hr =>
      have ⟨_, _, hr⟩ := i.accepted hs hk hr
      cases h.symm.trans hr
  case next m ms s r r' i h _ hi =>
    -- The table behind the first message is the one in which the rest is not blocked.
    rw [firstBlocked?_cons c 0 (.replicate (s.store.failNext + 1) m.eventId)] at hb
    split at hb
    case isTrue => cases hb
    case isFalse hr =>
      have ⟨hm, hs', _⟩ := i.accepted hs hk hr
      have hb := Option.map_eq_none_iff.mp hb
      have ⟨hr', hm'⟩ := hi (hs'.symm ▸ hs) (by simp [hm]; omega) (hm.symm ▸ hb)
      refine ⟨hr', ?_⟩
      simp [hm', hm]

-- Otherwise the first message that is blocked is called for until no attempts are left.
theorem Course.blocked {j : Nat} (h : Course c Memory.execute ms s r) (hs : s.scope.Endless)
    (hk : s.store.failNext < c.policy.maxAttempts) (hb : firstBlocked? s.store ms = some j) :
    ∃ m, ms[j]? = some m ∧ r.result = c.verdict m (.error (s.store.complaint m.eventId)) ∧
      r.final.store = s.store.grow ((ms.take j).map c.row) 0
        (calledIds s.store.failNext (ms.take j) ++ .replicate c.policy.maxAttempts m.eventId) := by
  induction h generalizing j
  case done => simp [firstBlocked?] at hb
  case failed m _ s _ _ i h =>
    by_cases hr : s.store.Refuses m.eventId
    case pos =>
      rw [firstBlocked?_cons c 0 [], if_pos hr] at hb
      cases hb
      have ⟨hm, _, hr⟩ := i.refused hs hk hr
      exact ⟨m, rfl, hr, hm⟩
    case neg =>
      have ⟨_, _, hr⟩ := i.accepted hs hk hr
      cases h.symm.trans hr
  case next m ms s r r' i h _ hi =>
    by_cases hr : s.store.Refuses m.eventId
    case pos =>
      have ⟨_, _, hr⟩ := i.refused hs hk hr
      cases h.symm.trans hr
    case neg =>
      rw [firstBlocked?_cons c 0 (.replicate (s.store.failNext + 1) m.eventId), if_neg hr] at hb
      have ⟨j, hb, hj⟩ := Option.map_eq_some_iff.mp hb
      have ⟨hm, hs', _⟩ := i.accepted hs hk hr
      have ⟨m', hj', hr', hm'⟩ := hi (hs'.symm ▸ hs) (by simp [hm]; omega) (hm.symm ▸ hb)
      subst hj
      refine ⟨m', hj', ?_, ?_⟩
      · simpa [hm] using hr'
      · simp [hm', hm]

-- What a publish call does to a table, exactly, if nothing stops it. Failures that were asked for
-- hit the attempts for the first message: either they use them up, or there are none of them left.
-- Then all messages are written, or those before the first one that cannot be.
theorem publish_effect (c : Config) (nonempty : ms ≠ []) (valid : ∀ m ∈ ms, m.validate = .ok ())
    (endless : s.scope.Endless) :
    let A := c.policy.maxAttempts
    let mem := s.store
    let r := publish c Memory.execute ms s
    let final := r.final.store
    -- Failures for all attempts: the first message is given up, and the others are not reached.
    (A ≤ mem.failNext →
      ∃ m, ms.head? = some m ∧
        r.result = .error (.retriesExhausted m.eventId c.maxRetries.toNat A
          (.database "scripted failure")) ∧
        final = mem.grow [] (mem.failNext - A) (.replicate A m.eventId) ∧
        final.attempts.length = mem.attempts.length + A) ∧
    -- No message is blocked: all of them are written.
    (mem.failNext < A → firstBlocked? mem ms = none →
      r.result = .ok () ∧
      final = mem.grow (ms.map c.row) 0 (calledIds mem.failNext ms) ∧
      final.attempts.length = mem.attempts.length + (mem.failNext + ms.length)) ∧
    -- The message with the number `j` is the first one that is blocked: it is given up.
    (mem.failNext < A → ∀ j, firstBlocked? mem ms = some j →
      ∃ m, ms[j]? = some m ∧
        r.result = .error (.retriesExhausted m.eventId c.maxRetries.toNat A
          (mem.complaint m.eventId)) ∧
        final = mem.grow ((ms.take j).map c.row) 0
          (calledIds mem.failNext (ms.take j) ++ .replicate A m.eventId) ∧
        final.attempts.length =
          mem.attempts.length + if j = 0 then A else mem.failNext + j + A) := by
  intro A mem r final
  have ⟨r', hc, hr, _, hf⟩ := publish_course c Memory.execute s valid
  refine ⟨fun hk => ?_, fun hk hb => ?_, fun hk j hb => ?_⟩
  case refine_1 =>
    obtain ⟨m, ms, rfl⟩ := List.exists_cons_of_ne_nil nonempty
    have ⟨hr', hm⟩ := hc.scripted endless hk
    have hf : final = _ := (congrArg Situation.store hf).trans hm
    refine ⟨m, rfl, hr.trans hr', hf, ?_⟩
    simp [hf, A, mem]
  case refine_2 =>
    have ⟨hr', hm⟩ := hc.unblocked endless hk hb
    have hf : final = mem.grow (ms.map c.row) 0 (calledIds mem.failNext ms) := by
      obtain ⟨m, ms, rfl⟩ := List.exists_cons_of_ne_nil nonempty
      exact (congrArg Situation.store hf).trans hm
    refine ⟨hr.trans hr', hf, ?_⟩
    simp [hf, length_calledIds nonempty]
  case refine_3 =>
    have ⟨m, hj, hr', hm⟩ := hc.blocked endless hk hb
    have hf : final = _ := (congrArg Situation.store hf).trans hm
    refine ⟨m, hj, hr.trans hr', hf, ?_⟩
    obtain _ | j := j
    · simp [hf, A, mem]
    · have ⟨hl, _⟩ := List.getElem?_eq_some_iff.mp hj
      have hn : ms.take (j + 1) ≠ [] := by simp [nonempty]
      simp [hf, length_calledIds hn, Nat.min_eq_left (Nat.le_of_lt hl), A, mem]

-- The last message has the id of the first one. A failure that was asked for hits the first one.
theorem publish_effect_of_repeated_id :
    let c := Config.sample 1
    let ms := [sample "b", sample "c", sample "b"]
    let s : Situation Memory := ⟨{ failNext := 1 }, .background, 0⟩
    let r := publish c Memory.execute ms s
    r.result = .error (.retriesExhausted "b" 1 2
      (.database "duplicate key value violates unique constraint on event_id b")) ∧
    r.final.store =
      { rows     := [c.row (sample "b"), c.row (sample "c")]
        attempts := ["b", "b", "c", "b", "b"] } := by
  intro c ms s r
  have nonempty : ms ≠ [] := by decide
  have valid : ∀ m ∈ ms, m.validate = .ok () := by
    simp only [ms, List.forall_mem_cons]
    exact ⟨rfl, rfl, rfl, by simp⟩
  have endless : s.scope.Endless := fun _ => rfl
  have ⟨_, _, h⟩ := publish_effect c nonempty valid endless
  have ⟨m, hm, hr, hs, _⟩ := h (by decide) 2 (by decide)
  cases hm
  exact ⟨hr, hs⟩

end Publisher
end Outbox

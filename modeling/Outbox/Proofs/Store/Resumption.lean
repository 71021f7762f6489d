import Mathlib.Data.List.Nodup
import Outbox.Proofs.Store.Memory
/-!
What a failed publish call leaves behind in a table, and that the call can be taken up again at the
message that its failure names.
-/

namespace Outbox

namespace Store.Memory

open Executor (Call Reply)

-- What happens in the course of a call: the table is reached in some scope and at some instant, and
-- until the answer is there time passes and the switch of the scope may be turned on.
structure Meanwhile where
  scope   : Scope
  now     : Instant
  elapsed : Nat
  cancels : Bool

-- Nothing happens: the scope and the clock are those that the call was made with.
def Meanwhile.nothing (call : Call) (_ : Memory) : Meanwhile :=
  ⟨call.scope, call.now, 0, false⟩

-- A table whose calls take their time, so that scopes can stop before, during and between them.
def executeAmid (meanwhile : Call → Memory → Meanwhile) : Executor Memory := fun call mem =>
  let w := meanwhile call mem
  let (reply, mem) := execute { call with scope := w.scope, now := w.now } mem
  ({ reply with elapsed := w.elapsed, cancels := w.cancels }, mem)

theorem executeAmid_nothing : executeAmid Meanwhile.nothing = execute := by
  funext call mem
  simp only [executeAmid, Meanwhile.nothing, execute]
  cases call.scope.stopped? call.now
  case some => rfl
  case none => cases Statement.eventIdOf? call.arguments <;> rfl

-- Either the table is left alone, or the row of the call is inserted.
theorem executeAmid_cases {meanwhile : Call → Memory → Meanwhile} {call : Call} {reply : Reply}
    {mem mem' : Memory} (h : executeAmid meanwhile call mem = (reply, mem')) :
    (∃ failure, reply.answer = .error failure ∧ mem' = mem) ∨
    (∃ id, Statement.eventIdOf? call.arguments = some id ∧
      mem.insert id ⟨call.statement, call.arguments⟩ = (reply.answer, mem')) := by
  simp only [executeAmid, execute] at h
  split at h
  case h_1 =>
    obtain ⟨hr, hm⟩ := Prod.mk.inj h
    exact .inl ⟨_, (congrArg Reply.answer hr).symm, hm.symm⟩
  case h_2 =>
    split at h
    case h_1 =>
      obtain ⟨hr, hm⟩ := Prod.mk.inj h
      exact .inl ⟨_, (congrArg Reply.answer hr).symm, hm.symm⟩
    case h_2 id hid =>
      obtain ⟨hr, hm⟩ := Prod.mk.inj h
      exact .inr ⟨id, hid, Prod.ext (congrArg Reply.answer hr) hm⟩

end Store.Memory

namespace Publisher

open Executor (Call Reply)
open Store (Memory)
open Store.Memory (Meanwhile executeAmid)

variable {c c' : Config} {m : Message} {ms : List Message} {s s' s₁ s₂ : Situation Memory}
  {r : Run Memory} {reply : Reply} {failure : Failure} {meanwhile : Call → Memory → Meanwhile}

namespace Attempt

-- Either the table is left alone, or the row of the message is inserted.
theorem error_or_insert (a : Attempt c (executeAmid meanwhile) m s₁ reply s₂) :
    (∃ failure, reply.answer = .error failure ∧ s₂.store = s₁.store) ∨
    s₁.store.insert m.eventId (c.row m) = (reply.answer, s₂.store) := by
  cases Memory.executeAmid_cases a.answered
  case inl h => exact .inl h
  case inr h =>
    have ⟨id, hid, h⟩ := h
    cases hid.symm.trans (Statement.eventIdOf?_arguments m)
    exact .inr h

theorem rows_of_ok {n : Nat} (a : Attempt c (executeAmid meanwhile) m s₁ reply s₂)
    (h : reply.answer = .ok n) : s₂.store.rows = s₁.store.rows ++ [c.row m] := by
  cases a.error_or_insert
  case inl hi =>
    have ⟨_, hf, _⟩ := hi
    cases h.symm.trans hf
  case inr hi =>
    cases Memory.insert_cases hi
    case inl hi => exact hi.2
    case inr hi =>
      have ⟨_, hf, _⟩ := hi
      cases h.symm.trans hf

theorem rows_of_error {source : Executor.Failure}
    (a : Attempt c (executeAmid meanwhile) m s₁ reply s₂) (h : reply.answer = .error source) :
    s₂.store.rows = s₁.store.rows := by
  cases a.error_or_insert
  case inl hi =>
    have ⟨_, _, hs⟩ := hi
    rw [hs]
  case inr hi =>
    cases Memory.insert_cases hi
    case inl hi => cases h.symm.trans hi.1
    case inr hi =>
      have ⟨_, _, hs⟩ := hi
      exact hs

end Attempt

namespace Insertion

variable {k : Nat}

theorem messageId?_eq {σ : Type} {ex : Executor σ} {s : Situation σ} {r : Run σ}
    (i : Insertion c ex m k s r) (h : r.result = .error failure) :
    failure.messageId? = some m.eventId := by
  induction i
  case written => cases h
  case again hi => exact hi h
  all_goals
    cases h
    rfl

theorem rows_of_ok (i : Insertion c (executeAmid meanwhile) m k s r) (h : r.result = .ok ()) :
    r.final.store.rows = s.store.rows ++ [c.row m] := by
  induction i
  case written a ha => exact a.rows_of_ok ha
  case again a ha _ _ _ _ hi => exact (hi h).trans (by rw [a.rows_of_error ha])
  all_goals cases h

-- However the writing of a message is given up, no row was added for it.
theorem rows_of_error (i : Insertion c (executeAmid meanwhile) m k s r)
    (h : r.result = .error failure) : r.final.store.rows = s.store.rows := by
  induction i
  case stopped => rfl
  case written => cases h
  case again a ha _ _ _ _ hi => exact (hi h).trans (a.rows_of_error ha)
  case interrupted a ha => exact a.rows_of_error ha
  case exhausted a ha _ _ => exact a.rows_of_error ha
  case cut a ha _ _ _ => exact a.rows_of_error ha

end Insertion

-- The rows that a course adds belong to the messages before the one at which it ends.
theorem Course.rows (h : Course c (executeAmid meanwhile) ms s r) :
    (r.result = .ok () ∧ r.final.store.rows = s.store.rows ++ ms.map c.row) ∨
    (∃ j m failure, ms[j]? = some m ∧ r.result = .error failure ∧
      failure.messageId? = some m.eventId ∧
      r.final.store.rows = s.store.rows ++ (ms.take j).map c.row) := by
  induction h
  case done => exact .inl ⟨rfl, by simp⟩
  case failed m _ _ _ failure i h =>
    refine .inr ⟨0, m, failure, rfl, h, i.messageId?_eq h, ?_⟩
    simp [i.rows_of_error h]
  case next i h _ hi =>
    cases hi
    case inl hi =>
      refine .inl ⟨hi.1, ?_⟩
      simp [hi.2, i.rows_of_ok h]
    case inr hi =>
      have ⟨j, m, failure, hm, hr, hf, hs⟩ := hi
      refine .inr ⟨j + 1, m, failure, hm, hr, hf, ?_⟩
      simp [hs, i.rows_of_ok h]

theorem publish_rows_of_ok (h : ∀ m ∈ ms, m.validate = .ok ())
    (hr : (publish c (executeAmid meanwhile) ms s).result = .ok ()) :
    (publish c (executeAmid meanwhile) ms s).final.store.rows = s.store.rows ++ ms.map c.row := by
  have ⟨r, hc, hr', _, hf⟩ := publish_course c (executeAmid meanwhile) s h
  rw [hf]
  cases hc.rows
  case inl hi => exact hi.2
  case inr hi =>
    have ⟨_, _, _, _, he, _⟩ := hi
    cases (hr.symm.trans hr').trans he

theorem publish_rows_of_error (h : ∀ m ∈ ms, m.validate = .ok ())
    (hr : (publish c (executeAmid meanwhile) ms s).result = .error failure) :
    ∃ j m, ms[j]? = some m ∧ failure.messageId? = some m.eventId ∧
      (publish c (executeAmid meanwhile) ms s).final.store.rows =
        s.store.rows ++ (ms.take j).map c.row := by
  have ⟨r, hc, hr', _, hf⟩ := publish_course c (executeAmid meanwhile) s h
  cases hc.rows
  case inl hi => cases (hr.symm.trans hr').trans hi.1
  case inr hi =>
    have ⟨j, m, _, hm, he, hi, hs⟩ := hi
    cases (hr.symm.trans hr').trans he
    exact ⟨j, m, hm, hi, hf ▸ hs⟩

theorem eventId_eq_iff {m' : Message} {i j : Nat} (nodup : (ms.map (·.eventId)).Nodup)
    (hi : ms[i]? = some m) (hj : ms[j]? = some m') : m.eventId = m'.eventId ↔ i = j := by
  constructor
  case mp =>
    intro h
    have ⟨hl, _⟩ := List.getElem?_eq_some_iff.mp hi
    exact (List.getElem?_inj (by simpa using hl) nodup).mp (by simp [hi, hj, h])
  case mpr =>
    rintro rfl
    cases hi.symm.trans hj
    rfl

-- Messages with different ids, none of which is in the table, are stored once each.
theorem count_storedIds {mem mem' : Memory} (nodup : (ms.map (·.eventId)).Nodup)
    (fresh : ∀ m ∈ ms, m.eventId ∉ mem.storedIds) (h : mem'.rows = mem.rows ++ ms.map c.row) :
    ∀ m ∈ ms, mem'.storedIds.count m.eventId = 1 := by
  intro m hm
  have hs : mem'.storedIds = mem.storedIds ++ ms.map (·.eventId) := by
    rw [Memory.storedIds, h, List.filterMap_append, Config.eventIds_rows]
    rfl
  calc
    mem'.storedIds.count m.eventId
      = mem.storedIds.count m.eventId + (ms.map (·.eventId)).count m.eventId := by
        rw [hs, List.count_append]
    _ = 0 + 1 := by
      rw [List.count_eq_zero.mpr (fresh m hm)]
      rw [List.count_eq_one_of_mem nodup (List.mem_map_of_mem hm)]

-- A publish call that fails names one message, and exactly the messages before it are in the table,
-- whatever happens in the course of its calls. If a later call for the messages from that one on
-- succeeds, all messages are in the table, in order and once each. Between the two calls the table
-- keeps its rows, whatever else is changed.
theorem publish_resume (valid : ∀ m ∈ ms, m.validate = .ok ())
    (nodup : (ms.map (·.eventId)).Nodup) (fresh : ∀ m ∈ ms, m.eventId ∉ s.store.storedIds)
    (failed : (publish c (executeAmid meanwhile) ms s).result = .error failure) :
    ∃ j < ms.length,
      (∀ i m, ms[i]? = some m → (failure.messageId? = some m.eventId ↔ i = j)) ∧
      ((publish c (executeAmid meanwhile) ms s).final.store.rows =
        s.store.rows ++ (ms.take j).map c.row) ∧
      ∀ c' meanwhile' s', c'.statement = c.statement →
        s'.store.rows = (publish c (executeAmid meanwhile) ms s).final.store.rows →
        (publish c' (executeAmid meanwhile') (ms.drop j) s').result = .ok () →
        let mem := (publish c' (executeAmid meanwhile') (ms.drop j) s').final.store
        mem.rows = s.store.rows ++ ms.map c.row ∧ ∀ m ∈ ms, mem.storedIds.count m.eventId = 1 := by
  have ⟨j, m, hm, hf, hs⟩ := publish_rows_of_error valid failed
  have ⟨hj, _⟩ := List.getElem?_eq_some_iff.mp hm
  refine ⟨j, hj, fun i m' hi => ?_, hs, fun c' meanwhile' s' hc hs' hr => ?_⟩
  case refine_1 => rw [hf, Option.some.injEq, eq_comm, eventId_eq_iff nodup hi hm]
  case refine_2 =>
    have hrow : c'.row = c.row := by
      funext m
      simp [Config.row, hc]
    have hrows : _ = s'.store.rows ++ (ms.drop j).map c'.row :=
      publish_rows_of_ok (fun m hm => valid m (List.mem_of_mem_drop hm)) hr
    have hrows : (publish c' (executeAmid meanwhile') (ms.drop j) s').final.store.rows =
        s.store.rows ++ ms.map c.row := by
      rw [hrows, hs', hs, hrow, List.append_assoc, ← List.map_append, List.take_append_drop]
    exact ⟨hrows, count_storedIds nodup fresh hrows⟩

-- The deadline of the first call comes while a message is written. Nothing happens in the second.
theorem publish_resume_after_deadline :
    let c := Config.sample 0
    let ms := [sample "a", sample "b"]
    let slow := fun (call : Call) (_ : Memory) => Meanwhile.mk call.scope call.now 1000 false
    let first := publish c (executeAmid slow) ms ⟨.empty, { deadline := some 1000 }, 0⟩
    let later : Situation Memory := ⟨{ rows := [c.row (sample "a")] }, .background, 1000⟩
    let second := publish c Memory.execute [sample "b"] later
    first.result = .error (.interrupted "b" .deadlineExceeded) ∧
    first.final.store.rows = later.store.rows ∧
    second.result = .ok () ∧
    second.final.store.rows = ms.map c.row ∧
    ∀ m ∈ ms, second.final.store.storedIds.count m.eventId = 1 := by
  intro c ms slow first later second
  have valid : ∀ m ∈ ms, m.validate = .ok () := by decide
  obtain ⟨hf, hs⟩ : first.result = .error (.interrupted "b" .deadlineExceeded) ∧
      second.result = .ok () := by
    rw [(publish_eq_insertAll valid).1]
    rw [(publish_eq_insertAll fun m hm => valid m (.tail _ hm)).1]
    simp [ms, slow, later, sample, insertAll, insert, insertFrom, Config.call, Situation.after,
      Call.scopeAfter, Run.andThen, executeAmid, Memory.execute, Statement.eventIdOf?_arguments,
      Memory.insert, Memory.storedIds, Memory.empty, Scope.stopped?, Scope.isCancelled,
      Scope.cancelledFrom, Scope.isExpired, Scope.background]
  obtain ⟨j, _, hn, hr, hl⟩ := publish_resume valid (by decide) (by decide) hf
  obtain rfl : 1 = j := (hn 1 (sample "b") rfl).mp rfl
  have hl := hl c Meanwhile.nothing later rfl hr.symm
  rw [Memory.executeAmid_nothing] at hl
  obtain ⟨hr', hc⟩ := hl hs
  exact ⟨hf, hr, hs, hr', hc⟩

end Publisher
end Outbox

import Outbox.Proofs.Publisher.Outcome
import Outbox.Proofs.Store.Memory
/-!
What a success says of the rows that were affected: nothing. A message counts as written when a call
for it succeeds, and the count of rows in the answer makes no difference.
-/

namespace Outbox

namespace Executor

variable {r : Reply} {f : Nat → Nat} {rows : Nat}

theorem Reply.exists_of_isSuccess (h : r.isSuccess) : ∃ rows, r.answer = .ok rows := by
  cases ha : r.answer
  case error => simp [isSuccess_of_error ha] at h
  case ok rows => exact ⟨rows, rfl⟩

theorem Reply.isRetryable_of_ok (h : r.answer = .ok rows) : r.isRetryable = false := by
  simp [isRetryable, h]

-- The same reply with another count of rows.
def Reply.recount (f : Nat → Nat) (r : Reply) : Reply :=
  { r with answer := r.answer.map f }

theorem Reply.answer_recount_of_ok (h : r.answer = .ok rows) :
    (r.recount f).answer = .ok (f rows) := by
  simp [recount, h, Except.map]

theorem Reply.answer_recount_of_error {failure : Failure} (h : r.answer = .error failure) :
    (r.recount f).answer = .error failure := by
  simp [recount, h, Except.map]

end Executor

-- The executor with other counts of rows in its answers.
def Executor.recount {σ : Type} (ex : Executor σ) (f : Nat → Nat) : Executor σ := fun call store =>
  ((ex call store).1.recount f, (ex call store).2)

namespace Publisher

open Executor (Call Reply)

variable {σ : Type} {c : Config} {ex : Executor σ} {s : Situation σ} {r : Run σ} {m : Message}
  {ms : List Message} {calls : List (Call × Reply)} {notices : List Notice} {f : Nat → Nat}
  {rows : Nat} {next next' : Situation σ → Run σ}

-- The run as it is told with other counts of rows.
def Run.recount (f : Nat → Nat) (r : Run σ) : Run σ :=
  { r with calls := r.calls.map fun e => (e.1, e.2.recount f) }

namespace Run

theorem recount_prepend :
    (r.prepend calls notices).recount f =
      (r.recount f).prepend (calls.map fun e => (e.1, e.2.recount f)) notices := by
  simp [recount, prepend]

theorem recount_andThen (h : ∀ s, next' s = (next s).recount f) :
    (r.recount f).andThen next' = (r.andThen next).recount f := by
  cases hr : r.result
  case error =>
    have hr' : (r.recount f).result = _ := hr
    rw [andThen_of_error hr, andThen_of_error hr']
  case ok =>
    have hr' : (r.recount f).result = _ := hr
    rw [andThen_of_ok hr, andThen_of_ok hr', recount_prepend, h]
    rfl

end Run

theorem Attempt.recount {s₁ s₂ : Situation σ} {reply : Reply} (a : Attempt c ex m s₁ reply s₂) :
    Attempt c (ex.recount f) m s₁ (reply.recount f) s₂ where
  live     := a.live
  answered := by simp [Executor.recount, a.answered]
  scope    := a.scope
  now      := a.now

theorem Insertion.recount {k : Nat} (i : Insertion c ex m k s r) :
    Insertion c (ex.recount f) m k s (r.recount f) := by
  induction i
  case stopped h => exact .stopped h
  case written a ha => exact .written a.recount (Reply.answer_recount_of_ok ha)
  case interrupted a ha => exact .interrupted a.recount (Reply.answer_recount_of_error ha)
  case exhausted a ha hf hk => exact .exhausted a.recount (Reply.answer_recount_of_error ha) hf hk
  case cut a ha hf hk hw => exact .cut a.recount (Reply.answer_recount_of_error ha) hf hk hw
  case again a ha hf hk hw _ hi =>
    rw [Run.recount_prepend]
    exact .again a.recount (Reply.answer_recount_of_error ha) hf hk hw hi

theorem insert_recount : insert c (ex.recount f) m s = (insert c ex m s).recount f :=
  insert_insertion.recount.insertFrom_eq (Nat.sub_add_cancel c.policy.maxAttempts_pos)

theorem insertAll_recount :
    insertAll c (ex.recount f) ms s = (insertAll c ex ms s).recount f := by
  induction ms generalizing s
  case nil => rfl
  case cons m ms hi =>
    rw [insertAll, insertAll, insert_recount]
    exact Run.recount_andThen fun _ => hi

theorem insertBatches_recount {count index : Nat} {batches : List (List Message)} :
    insertBatches c (ex.recount f) count index batches s =
      (insertBatches c ex count index batches s).recount f := by
  induction batches generalizing index s
  case nil => rfl
  case cons batch batches hi =>
    rw [insertBatches, insertBatches, insertAll_recount]
    rw [← List.map_nil, ← Run.recount_prepend]
    exact Run.recount_andThen fun _ => hi

theorem publish_recount : publish c (ex.recount f) ms s = (publish c ex ms s).recount f := by
  cases ms
  case nil => rfl
  case cons m ms =>
    unfold publish
    dsimp only
    split
    case h_1 => rfl
    case h_2 =>
      rw [insertBatches_recount]
      exact Run.recount_andThen fun _ => rfl

-- The calls for a message that is written: the last one succeeds, and so many rows are affected.
structure Accepted (c : Config) (m : Message) (calls : List (Call × Reply)) (rows : Nat) :
    Prop where
  tries  : Tries c m calls
  answer : ∃ e, calls.getLast? = some e ∧ e.2.answer = .ok rows

theorem Tries.accepted (t : Tries c m calls) {e : Call × Reply} (he : e ∈ calls)
    (ha : e.2.answer = .ok rows) : Accepted c m calls rows where
  tries  := t
  answer := ⟨e, getLast?_of_not_isRetryable t.retryable he (Reply.isRetryable_of_ok ha), ha⟩

namespace Accepted

theorem written {j : Nat} (a : Accepted c m (callsFor calls j) rows) : Written calls j := by
  have ⟨e, he, ha⟩ := a.answer
  exact ⟨e, List.mem_of_getLast? he, Reply.isSuccess_of_ok ha⟩

theorem unique {rows' : Nat} (a : Accepted c m calls rows) (a' : Accepted c m calls rows') :
    rows = rows' := by
  have ⟨_, he, ha⟩ := a.answer
  have ⟨_, he', ha'⟩ := a'.answer
  cases he.symm.trans he'
  cases ha.symm.trans ha'
  rfl

end Accepted

theorem publish_tries {j : Nat} (hm : ms[j]? = some m)
    (hn : callsFor (publish c ex ms s).calls j ≠ []) :
    Tries c m (callsFor (publish c ex ms s).calls j) := by
  have ⟨runs, hf, t, _⟩ := publish_trace c ex ms s
  have ⟨hj, hm⟩ := List.getElem?_eq_some_iff.mp hm
  have hr := lt_of_callsFor_ne_nil hn
  simp only [hf, t.byMessage_flatten] at hr
  have h : callsFor (publish c ex ms s).calls j = runs[j] := by
    simp [callsFor, hf, t.byMessage_flatten, hr]
  exact h ▸ hm ▸ t.tries j hr hj

theorem mem_of_mem_callsFor {j : Nat} {e : Call × Reply} (he : e ∈ callsFor calls j) :
    e ∈ calls := by
  have hj := lt_of_callsFor_ne_nil (List.ne_nil_of_mem he)
  rw [callsFor_of_lt hj] at he
  rw [← List.flatten_splitBy (fun e _ => !e.2.isSuccess) calls]
  exact List.mem_flatten.mpr ⟨_, List.getElem_mem hj, he⟩

-- Every call is made for some message.
theorem publish_exists_callsFor {e : Call × Reply} (he : e ∈ (publish c ex ms s).calls) :
    ∃ j m, ms[j]? = some m ∧ e ∈ callsFor (publish c ex ms s).calls j := by
  have ⟨runs, hf, t, _⟩ := publish_trace c ex ms s
  rw [hf] at he
  have ⟨run, hr, he⟩ := List.mem_flatten.mp he
  have ⟨j, hj, hr⟩ := List.mem_iff_getElem.mp hr
  have hl : j < ms.length := Nat.lt_of_lt_of_le hj t.length_le
  refine ⟨j, ms[j], List.getElem?_eq_getElem hl, ?_⟩
  simp [callsFor, hf, t.byMessage_flatten, hj, hr, he]

theorem publish_ok_iff_accepted :
    (publish c ex ms s).result = .ok () ↔
      ∀ j m, ms[j]? = some m →
        ∃ rows, Accepted c m (callsFor (publish c ex ms s).calls j) rows := by
  rw [publish_ok_iff]
  constructor
  case mp =>
    intro h j m hm
    have ⟨e, he, hs⟩ := h j (List.getElem?_eq_some_iff.mp hm).1
    have ⟨rows, ha⟩ := Reply.exists_of_isSuccess hs
    exact ⟨rows, (publish_tries hm (List.ne_nil_of_mem he)).accepted he ha⟩
  case mpr =>
    intro h j hj
    have ⟨_, ha⟩ := h j ms[j] (List.getElem?_eq_getElem hj)
    exact ha.written

-- A call that affects no rows counts as the writing of some message.
theorem publish_accepted_of_mem {e : Call × Reply} (he : e ∈ (publish c ex ms s).calls)
    (ha : e.2.answer = .ok rows) :
    ∃ j m, ms[j]? = some m ∧ Accepted c m (callsFor (publish c ex ms s).calls j) rows := by
  have ⟨j, m, hm, he⟩ := publish_exists_callsFor he
  exact ⟨j, m, hm, (publish_tries hm (List.ne_nil_of_mem he)).accepted he ha⟩

-- A publish call succeeds when every message is accepted, whatever the counts of rows are; so every
-- message has a row only if, in addition, no answer says that no rows were affected. The calls that
-- are made and the result are the same for all counts.
theorem publish_takes_any_row_count (c : Config) (ex : Executor σ) (ms : List Message)
    (s : Situation σ) :
    let r := publish c ex ms s
    (r.result = .ok () ↔
      ∀ j m, ms[j]? = some m → ∃ rows, Accepted c m (callsFor r.calls j) rows) ∧
    (r.result = .ok () ∧ (∀ e ∈ r.calls, e.2.answer ≠ .ok 0) ↔
      ∀ j m, ms[j]? = some m → ∃ rows, 0 < rows ∧ Accepted c m (callsFor r.calls j) rows) ∧
    ∀ f, publish c (ex.recount f) ms s = r.recount f := by
  intro r
  refine ⟨publish_ok_iff_accepted, ?_, fun _ => publish_recount⟩
  constructor
  case mp =>
    intro ⟨hr, hz⟩ j m hm
    have ⟨rows, a⟩ := publish_ok_iff_accepted.mp hr j m hm
    have ⟨e, he, ha⟩ := a.answer
    refine ⟨rows, Nat.pos_of_ne_zero fun h => ?_, a⟩
    exact hz e (mem_of_mem_callsFor (List.mem_of_getLast? he)) (h ▸ ha)
  case mpr =>
    intro h
    refine ⟨publish_ok_iff_accepted.mpr fun j m hm => ?_, fun e he ha => ?_⟩
    case refine_1 =>
      have ⟨rows, _, a⟩ := h j m hm
      exact ⟨rows, a⟩
    case refine_2 =>
      have ⟨j, m, hm, a⟩ := publish_accepted_of_mem he ha
      have ⟨_, hp, a'⟩ := h j m hm
      exact absurd (a.unique a') (Nat.ne_of_lt hp)

-- An executor that affects no rows.
def idle : Executor Unit := fun _ _ => ({ answer := .ok 0 }, ())

theorem publish_ok_without_rows :
    let r := publish (.sample 0) idle [sample "a"] ⟨(), .background, 0⟩
    r.result = .ok () ∧
    ¬∃ e ∈ r.calls, e.1.arguments = (sample "a").arguments ∧ ∃ rows ≥ 1, e.2.answer = .ok rows := by
  intro r
  have valid : ∀ m ∈ [sample "a"], m.validate = .ok () := by decide
  have ⟨hr, hc, _⟩ : r.result = _ ∧ r.calls = _ ∧ _ := publish_eq_insertAll valid
  rw [hr, hc]
  simp [insertAll, insert, insertFrom, idle, Run.andThen, Scope.stopped?, Scope.isCancelled,
    Scope.cancelledFrom, Scope.isExpired, Scope.background]

end Publisher
end Outbox

import Mathlib.Data.List.DropRight
import Mathlib.Data.List.Nodup
import Outbox.Proofs.Store.Memory
/-!
The history of a table in memory: what is true of every table that was new once, whatever has been
done to it since.
-/

namespace Outbox.Store.Memory

open Executor (Call Reply)

-- Nothing is left behind when a table is cleared.
theorem clear_eq_empty (mem : Memory) : mem.clear = .empty := rfl

-- The two ways in which a call gives up before it is recorded.
def stoppedReply (reason : Stop) : Reply := { answer := .error (.interrupted reason) }

def unnamedReply : Reply := { answer := .error (.invalidArgument 1 "expected event id text") }

-- The id that a call is recorded with, if it is recorded.
def recorded? (call : Call) : Option String :=
  match call.scope.stopped? call.now with
  | some _ => none
  | none   => Statement.eventIdOf? call.arguments

-- What can be done to a table.
inductive Operation where
  | execute (call : Call)
  | failNext (count : Nat)
  | failEvent (id : String)
  | clear

namespace Operation

-- Only calls are answered.
def perform : Operation → Memory → Option Reply × Memory
  | execute call,   mem => ((Memory.execute call mem).1, (Memory.execute call mem).2)
  | failNext count, mem => (none, mem.failNextCalls count)
  | failEvent id,   mem => (none, mem.failEvent id)
  | clear,          mem => (none, mem.clear)

-- The answers, and the table at the end.
def performAll : List Operation → Memory → List (Option Reply) × Memory
  | [],        mem => ([], mem)
  | op :: ops, mem =>
    let (reply?, mem)  := op.perform mem
    let (replies, mem) := performAll ops mem
    (reply? :: replies, mem)

def isClear : Operation → Bool
  | clear => true
  | _     => false

def recorded? : Operation → Option String
  | execute call => Memory.recorded? call
  | _            => none

-- The operations behind the last one that clears the table; all of them if there is none.
def sinceClear (ops : List Operation) : List Operation :=
  ops.rtakeWhile (!·.isClear)

-- The ids that are recorded since then.
def recordedIds (ops : List Operation) : List String :=
  (sinceClear ops).filterMap recorded?

end Operation

open Operation (performAll recordedIds)

variable {mem mem' : Memory} {call : Call} {reply : Reply} {answer : Except Executor.Failure Nat}
  {id : String} {row : Row} {n : Nat} {op : Operation} {ops : List Operation}

-- All that a call can come to.
inductive Executes (mem : Memory) (call : Call) : Reply → Memory → Prop
  | stopped (reason : Stop) :
    (call.scope.stopped? call.now = some reason) → Executes mem call (stoppedReply reason) mem
  | unnamed :
    (call.scope.stopped? call.now = none) → (Statement.eventIdOf? call.arguments = none) →
    Executes mem call unnamedReply mem
  | named (id : String) (answer : Except Executor.Failure Nat) (mem' : Memory) :
    (call.scope.stopped? call.now = none) → (Statement.eventIdOf? call.arguments = some id) →
    (mem.insert id ⟨call.statement, call.arguments⟩ = (answer, mem')) →
    Executes mem call { answer } mem'

theorem execute_executes (mem : Memory) (call : Call) :
    Executes mem call (execute call mem).1 (execute call mem).2 := by
  cases hs : call.scope.stopped? call.now
  case some reason =>
    simp only [execute, hs]
    exact .stopped reason hs
  case none =>
    cases hid : Statement.eventIdOf? call.arguments
    case none =>
      simp only [execute, hs, hid]
      exact .unnamed hs hid
    case some id =>
      simp only [execute, hs, hid]
      exact .named id _ _ hs hid rfl

namespace Inserts

theorem attempts (h : Inserts mem id row answer mem') : mem'.attempts = mem.attempts ++ [id] := by
  cases h <;> rfl

theorem failing (h : Inserts mem id row answer mem') : mem'.failing = mem.failing := by
  cases h <;> rfl

theorem failNext (h : Inserts mem id row answer mem') : mem'.failNext = mem.failNext - 1 := by
  cases h
  case scripted => rfl
  case refused hn _ => simp [hn]
  case accepted hn _ => simp [hn]

theorem answer_eq (h : Inserts mem id row answer mem') (hn : 0 < mem.failNext) :
    answer = .error (.database "scripted failure") := by
  cases h
  case scripted => rfl
  case refused hz _ => exact absurd hz (Nat.ne_of_gt hn)
  case accepted hz _ => exact absurd hz (Nat.ne_of_gt hn)

end Inserts

-- What anyone who calls a table can count on.
structure Serves (mem : Memory) (call : Call) (reply : Reply) (mem' : Memory) : Prop where
  -- A call that succeeds adds its row, and no other call does.
  stored_iff : reply.answer = .ok 1 ↔ mem'.rows = mem.rows ++ [⟨call.statement, call.arguments⟩]
  answer     : reply.answer = .ok 1 ∨ ∃ failure, reply.answer = .error failure
  failed     : ∀ failure, reply.answer = .error failure → mem'.rows = mem.rows
  -- A call in a scope that has stopped and a call without an id leave no trace.
  stopped    : ∀ reason, call.scope.stopped? call.now = some reason →
    reply = stoppedReply reason ∧ mem' = mem
  unnamed    : call.scope.stopped? call.now = none → Statement.eventIdOf? call.arguments = none →
    reply = unnamedReply ∧ mem' = mem
  -- Every other call is recorded. If failures are left it fails, and there is one less of them.
  recorded   : ∀ id, call.scope.stopped? call.now = none →
    Statement.eventIdOf? call.arguments = some id →
    mem'.attempts = mem.attempts ++ [id] ∧ mem'.failing = mem.failing ∧
    mem'.failNext = mem.failNext - 1 ∧
    (0 < mem.failNext → reply.answer = .error (.database "scripted failure"))

namespace Executes

theorem rows (h : Executes mem call reply mem') :
    (reply.answer = .ok 1 ∧ mem'.rows = mem.rows ++ [⟨call.statement, call.arguments⟩]) ∨
    (∃ failure, reply.answer = .error failure ∧ mem'.rows = mem.rows) := by
  cases h
  case stopped => exact .inr ⟨_, rfl, rfl⟩
  case unnamed => exact .inr ⟨_, rfl, rfl⟩
  case named h =>
    cases insert_cases h
    case inl h => exact .inl h
    case inr h =>
      have ⟨_, ha, hr⟩ := h
      exact .inr ⟨_, ha, hr⟩

theorem attempts (h : Executes mem call reply mem') :
    mem'.attempts = mem.attempts ++ (recorded? call).toList := by
  cases h
  case stopped hs => simp [recorded?, hs]
  case unnamed hs hid => simp [recorded?, hs, hid]
  case named hs hid h => simp [recorded?, hs, hid, (inserts_of_eq h).attempts]

theorem serves (h : Executes mem call reply mem') : Serves mem call reply mem' where
  stored_iff := by
    cases h.rows
    case inl hr => exact iff_of_true hr.1 hr.2
    case inr hr =>
      have ⟨_, ha, hr⟩ := hr
      exact iff_of_false (by simp [ha]) (by simp [hr])
  answer := by
    cases h.rows
    case inl hr => exact .inl hr.1
    case inr hr =>
      have ⟨failure, ha, _⟩ := hr
      exact .inr ⟨failure, ha⟩
  failed failure hf := by
    cases h.rows
    case inl hr => cases hf.symm.trans hr.1
    case inr hr =>
      have ⟨_, _, hr⟩ := hr
      exact hr
  stopped reason hs := by
    cases h
    case stopped hs' =>
      cases hs.symm.trans hs'
      exact ⟨rfl, rfl⟩
    case unnamed hs' _ => cases hs.symm.trans hs'
    case named hs' _ _ => cases hs.symm.trans hs'
  unnamed hs hid := by
    cases h
    case stopped hs' => cases hs.symm.trans hs'
    case unnamed => exact ⟨rfl, rfl⟩
    case named hid' _ => cases hid.symm.trans hid'
  recorded id hs hid := by
    cases h
    case stopped hs' => cases hs.symm.trans hs'
    case unnamed hid' => cases hid.symm.trans hid'
    case named hid' h =>
      cases hid.symm.trans hid'
      have i := inserts_of_eq h
      exact ⟨i.attempts, i.failing, i.failNext, i.answer_eq⟩

end Executes

-- What is true of a table at all times.
structure Sound (mem : Memory) : Prop where
  texts     : ∀ row ∈ mem.rows, ∃ id rest, row.arguments = .text id :: rest
  distinct  : mem.storedIds.Nodup
  attempted : mem.storedIds.Sublist mem.attempts

theorem exists_arguments_of_eventId? (h : row.eventId? = some id) :
    ∃ rest, row.arguments = .text id :: rest := by
  unfold Row.eventId? Statement.eventIdOf? at h
  split at h
  case h_1 ha =>
    cases h
    exact ⟨_, ha⟩
  case h_2 => cases h

namespace Sound

theorem empty : Sound .empty where
  texts _ h := nomatch h
  distinct  := .nil
  attempted := .slnil

-- No row is left out when the ids are listed.
theorem length_storedIds (s : Sound mem) : mem.storedIds.length = mem.rows.length := by
  refine List.filterMap_length_eq_length.mpr fun row h => ?_
  have ⟨id, rest, ha⟩ := s.texts row h
  simp [Row.eventId?, ha, Statement.eventIdOf?]

-- A table in which a call is recorded that failed.
theorem recorded (s : Sound mem) : Sound (mem.grow [] n [id]) where
  texts     := by simpa using s.texts
  distinct  := by simpa [storedIds_grow] using s.distinct
  attempted := by
    simpa [storedIds_grow] using s.attempted.trans (List.sublist_append_left _ [id])

-- A table in which a row is stored.
theorem stored (s : Sound mem) (h : row.eventId? = some id) (hf : id ∉ mem.storedIds) :
    Sound (mem.grow [row] n [id]) where
  texts row' hr := by
    cases List.mem_append.mp hr
    case inl hr => exact s.texts row' hr
    case inr hr =>
      cases List.mem_singleton.mp hr
      exact ⟨id, exists_arguments_of_eventId? h⟩
  distinct := by
    have : (mem.grow [row] n [id]).storedIds = mem.storedIds.concat id := by
      simp [storedIds_grow, h]
    exact this ▸ List.Nodup.concat hf s.distinct
  attempted := by
    simpa [storedIds_grow, h] using s.attempted.append (List.Sublist.refl [id])

theorem inserts (s : Sound mem) (hid : row.eventId? = some id)
    (h : Inserts mem id row answer mem') : Sound mem' := by
  cases h
  case scripted => exact s.recorded
  case refused => exact s.recorded
  case accepted hr => exact s.stored hid (not_or.mp hr).2

theorem executes (s : Sound mem) (h : Executes mem call reply mem') : Sound mem' := by
  cases h
  case stopped => exact s
  case unnamed => exact s
  case named hid h =>
    have hid : Row.eventId? ⟨call.statement, call.arguments⟩ = some _ := hid
    exact s.inserts hid (inserts_of_eq h)

theorem perform (s : Sound mem) (op : Operation) : Sound (op.perform mem).2 := by
  cases op
  case execute call => exact s.executes (execute_executes mem call)
  case failNext => exact ⟨s.texts, s.distinct, s.attempted⟩
  case failEvent => exact ⟨s.texts, s.distinct, s.attempted⟩
  case clear => exact empty

theorem performAll (s : Sound mem) (ops : List Operation) : Sound (performAll ops mem).2 := by
  induction ops generalizing mem
  case nil => exact s
  case cons op _ hi => exact hi (s.perform op)

end Sound

namespace Operation

theorem performAll_concat :
    (performAll (ops ++ [op]) mem).2 = (op.perform (performAll ops mem).2).2 := by
  induction ops generalizing mem
  case nil => rfl
  case cons hi => exact hi

theorem recordedIds_clear : recordedIds (ops ++ [clear]) = [] := by
  simp [recordedIds, sinceClear, isClear]

theorem recordedIds_concat (h : op.isClear = false) :
    recordedIds (ops ++ [op]) = recordedIds ops ++ op.recorded?.toList := by
  rw [recordedIds, sinceClear, List.rtakeWhile_concat_pos _ _ _ (by simp [h]),
    List.filterMap_append]
  cases hr : op.recorded? <;> simp [recordedIds, sinceClear, hr]

theorem attempts_perform (h : op.isClear = false) :
    (op.perform mem).2.attempts = mem.attempts ++ op.recorded?.toList := by
  cases op
  case execute call => exact (execute_executes mem call).attempts
  case failNext => exact (List.append_nil _).symm
  case failEvent => exact (List.append_nil _).symm
  case clear => cases h

-- The attempts are those since the table was cleared.
theorem attempts_performAll (ops : List Operation) :
    (performAll ops .empty).2.attempts = recordedIds ops := by
  induction ops using List.reverseRecOn
  case nil => rfl
  case append_singleton ops op hi =>
    rw [performAll_concat]
    cases h : op.isClear
    case true =>
      cases op <;> cases h
      rw [recordedIds_clear]
      rfl
    case false => rw [attempts_perform h, recordedIds_concat h, hi]

end Operation

-- A table that was new once, and that anything has been done to since.
theorem table_of_any_history (ops : List Operation) :
    let mem := (performAll ops .empty).2
    -- Every row has an id, which is a text in the first place, and all these ids are different.
    (∀ row ∈ mem.rows, ∃ id rest, row.arguments = .text id :: rest) ∧
    mem.storedIds.length = mem.rows.length ∧
    mem.storedIds.Nodup ∧
    -- They are some of the ids that were recorded since the table was cleared, in their order.
    mem.attempts = recordedIds ops ∧
    mem.storedIds.Sublist mem.attempts ∧
    -- Whoever calls the table next is served.
    (∀ call, Serves mem call (execute call mem).1 (execute call mem).2) ∧
    -- After it is cleared it cannot be told from a new one.
    (∀ later, performAll later (Operation.clear.perform mem).2 = performAll later .empty) := by
  intro mem
  have s : Sound mem := Sound.empty.performAll ops
  exact ⟨s.texts, s.length_storedIds, s.distinct, Operation.attempts_performAll ops, s.attempted,
    fun call => (execute_executes mem call).serves,
    fun later => congrArg (performAll later) (clear_eq_empty mem)⟩

end Outbox.Store.Memory

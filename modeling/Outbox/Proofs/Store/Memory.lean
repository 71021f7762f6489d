import Outbox.Proofs.Publisher.Course
import Outbox.Store.Memory
/-!
What single calls, and the attempts to write single messages, do to a table in memory.
-/

namespace Outbox

namespace Store.Memory

variable {mem mem' : Memory} {id : String} {row : Row} {answer : Except Executor.Failure Nat}

-- Calls for these ids fail, also when no failures are scripted.
def Refuses (mem : Memory) (id : String) : Prop :=
  id ∈ mem.failing ∨ id ∈ mem.storedIds

-- The failure of a call for an id that is refused.
def complaint (mem : Memory) (id : String) : Executor.Failure :=
  if id ∈ mem.failing then .database s!"scripted failure for {id}"
  else .database s!"duplicate key value violates unique constraint on event_id {id}"

-- The table behind some calls: rows are added, failures are left over and attempts are recorded.
def grow (mem : Memory) (rows : List Row) (failNext : Nat) (ids : List String) : Memory :=
  { mem with rows := mem.rows ++ rows, failNext := failNext, attempts := mem.attempts ++ ids }

section

variable {rows rows' : List Row} {n n' : Nat} {ids ids' : List String}

@[simp] theorem rows_grow : (mem.grow rows n ids).rows = mem.rows ++ rows := rfl
@[simp] theorem failNext_grow : (mem.grow rows n ids).failNext = n := rfl
@[simp] theorem failing_grow : (mem.grow rows n ids).failing = mem.failing := rfl
@[simp] theorem attempts_grow : (mem.grow rows n ids).attempts = mem.attempts ++ ids := rfl

@[simp] theorem grow_grow :
    (mem.grow rows n ids).grow rows' n' ids' = mem.grow (rows ++ rows') n' (ids ++ ids') := by
  simp [grow, List.append_assoc]

@[simp] theorem grow_nil : mem.grow [] mem.failNext [] = mem := by
  simp [grow]

@[simp] theorem complaint_grow : (mem.grow rows n ids).complaint = mem.complaint := rfl

theorem storedIds_grow :
    (mem.grow rows n ids).storedIds = mem.storedIds ++ rows.filterMap Row.eventId? := by
  simp [storedIds]

theorem refuses_grow :
    (mem.grow rows n ids).Refuses id ↔ mem.Refuses id ∨ id ∈ rows.filterMap Row.eventId? := by
  simp only [Refuses, storedIds_grow, failing_grow, List.mem_append, or_assoc]

@[simp] theorem refuses_grow_nil : (mem.grow [] n ids).Refuses id ↔ mem.Refuses id := by
  simp [refuses_grow]

end

-- The three ways in which an insertion can go.

theorem insert_scripted (h : 0 < mem.failNext) :
    mem.insert id row =
      (.error (.database "scripted failure"), mem.grow [] (mem.failNext - 1) [id]) := by
  simp [insert, grow, h]

theorem insert_refused (h : mem.failNext = 0) (hr : mem.Refuses id) :
    mem.insert id row = (.error (mem.complaint id), mem.grow [] 0 [id]) := by
  by_cases hf : id ∈ mem.failing
  case pos => simp [insert, grow, complaint, h, hf]
  case neg =>
    have hs : id ∈ mem.rows.filterMap Row.eventId? := hr.resolve_left hf
    simp only [insert, storedIds, grow, complaint, h, List.contains_iff_mem, hf, hs]
    simp

theorem insert_accepted (h : mem.failNext = 0) (hr : ¬mem.Refuses id) :
    mem.insert id row = (.ok 1, mem.grow [row] 0 [id]) := by
  have hf : id ∉ mem.failing := (not_or.mp hr).1
  have hs : id ∉ mem.rows.filterMap Row.eventId? := (not_or.mp hr).2
  simp only [insert, storedIds, grow, h, List.contains_iff_mem, hf, hs]
  simp

theorem complaint_eq_database : ∃ text, mem.complaint id = .database text := by
  unfold complaint
  split
  all_goals exact ⟨_, rfl⟩

-- All that an insertion can come to.
inductive Inserts (mem : Memory) (id : String) (row : Row) :
    Except Executor.Failure Nat → Memory → Prop
  | scripted :
    (0 < mem.failNext) →
    Inserts mem id row (.error (.database "scripted failure")) (mem.grow [] (mem.failNext - 1) [id])
  | refused :
    (mem.failNext = 0) → (mem.Refuses id) →
    Inserts mem id row (.error (mem.complaint id)) (mem.grow [] 0 [id])
  | accepted :
    (mem.failNext = 0) → (¬mem.Refuses id) →
    Inserts mem id row (.ok 1) (mem.grow [row] 0 [id])

theorem insert_inserts (mem : Memory) (id : String) (row : Row) :
    Inserts mem id row (mem.insert id row).1 (mem.insert id row).2 := by
  by_cases hn : 0 < mem.failNext
  case pos =>
    rw [insert_scripted hn]
    exact .scripted hn
  case neg =>
    have hn := Nat.eq_zero_of_not_pos hn
    by_cases hr : mem.Refuses id
    case pos =>
      rw [insert_refused hn hr]
      exact .refused hn hr
    case neg =>
      rw [insert_accepted hn hr]
      exact .accepted hn hr

theorem inserts_of_eq (h : mem.insert id row = (answer, mem')) :
    Inserts mem id row answer mem' := by
  have hi := insert_inserts mem id row
  rwa [h] at hi

-- A row is added by a call that succeeds, and only by such a call. Calls are never interrupted.
theorem insert_cases (h : mem.insert id row = (answer, mem')) :
    (answer = .ok 1 ∧ mem'.rows = mem.rows ++ [row]) ∨
    (∃ text, answer = .error (.database text) ∧ mem'.rows = mem.rows) := by
  cases inserts_of_eq h
  case scripted => exact .inr ⟨_, rfl, by simp⟩
  case refused =>
    have ⟨text, ht⟩ : ∃ text, mem.complaint id = .database text := complaint_eq_database
    exact .inr ⟨text, by rw [ht], by simp⟩
  case accepted => exact .inl ⟨rfl, by simp⟩

end Store.Memory

namespace Publisher

open Executor (Reply)

variable {c : Config} {m : Message}

-- The row that a message is stored in.
def Config.row (c : Config) (m : Message) : Store.Row :=
  ⟨c.statement, m.arguments⟩

@[simp] theorem Config.eventId?_row : (c.row m).eventId? = some m.eventId := rfl

theorem Config.eventIds_rows {ms : List Message} :
    (ms.map c.row).filterMap Store.Row.eventId? = ms.map (·.eventId) := by
  simp [List.filterMap_map, Function.comp_def]

-- A configuration and messages with which single runs can be looked at.

def Config.sample (maxRetries : UInt32) : Config where
  table            := ⟨defaultTableName, by decide +kernel⟩
  batchSize        := 1
  maxRetries       := maxRetries
  backoffUnit      := .zero
  placeholderStyle := .default
  batchSize_pos    := Nat.zero_lt_one

def sample (id : String) : Message where
  eventId       := id
  eventTopic    := "orders"
  eventDomain   := "shop"
  eventType     := "created"
  objectType    := "order"
  producer      := none
  correlationId := none
  payload       := none
  metadata      := none
  createdAt     := ⟨1, 0⟩

namespace Attempt

variable {s₁ s₂ : Situation Store.Memory} {reply : Reply}

theorem execute_eq (a : Attempt c Store.Memory.execute m s₁ reply s₂) :
    reply = { answer := (s₁.store.insert m.eventId (c.row m)).1 } ∧
    s₂.store = (s₁.store.insert m.eventId (c.row m)).2 := by
  have h := a.answered
  simp only [Store.Memory.execute, Config.call, a.live, Statement.eventIdOf?_arguments] at h
  have ⟨hr, hs⟩ := Prod.mk.inj h
  exact ⟨hr.symm, hs.symm⟩

-- An attempt to write a message into a table is an insertion of its row.
theorem insert_eq (a : Attempt c Store.Memory.execute m s₁ reply s₂) :
    s₁.store.insert m.eventId (c.row m) = (reply.answer, s₂.store) := by
  have ⟨hr, hs⟩ := a.execute_eq
  rw [hr, hs]

-- The scope and the clock are left as they were.
theorem scope_eq (a : Attempt c Store.Memory.execute m s₁ reply s₂) : s₂.scope = s₁.scope := by
  simp [a.scope, a.execute_eq.1, Executor.Call.scopeAfter, Config.call]

end Attempt

end Publisher
end Outbox

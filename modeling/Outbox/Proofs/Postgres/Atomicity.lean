import Mathlib.Data.List.Forall2
import Outbox.Proofs.Postgres.Execution
import Outbox.Proofs.Publisher.Amendment
import Outbox.Proofs.Store.Memory
/-!
Publishing in a transaction. If the transaction is committed behind a success and rolled back behind
a failure, either all messages are in the table or none.
-/

namespace Outbox

namespace Postgres

open Executor (Call Reply)

variable {δ : Type}

-- The row that a statement inserts.
structure Row where
  statement : String
  bound     : List Bound

-- A database with a table. Some of its rows can be seen by everybody; the others are pending, and
-- can be seen when the transaction that inserts them is committed, all together. A statement that
-- is answered with a count inserts its row, one that is refused inserts nothing. Of a statement
-- that was abandoned nothing is known but that its row cannot be seen yet.
structure Database.Transactional (db : Database δ) (visible pending : δ → List Row) : Prop where
  visible_of_execute {text bound sent d response d'} :
    (db.execute text bound sent d = (response, d')) →
    visible d' = visible d
  pending_of_answered {text bound sent d response d' count} :
    (db.execute text bound sent d = (response, d')) → (response.answer = .ok count) →
    pending d' = pending d ++ [⟨text, bound⟩]
  pending_of_refused {text bound sent d response d' cause} :
    (db.execute text bound sent d = (response, d')) → (response.answer = .error cause) →
    pending d' = pending d
  visible_of_abandon {text bound sent givenUp d} :
    visible (db.abandon text bound sent givenUp d) = visible d
  visible_of_commit {d} :
    ((db.commit d).1 = .ok ()) → visible (db.commit d).2 = visible d ++ pending d
  visible_of_failed_commit {d} :
    ((db.commit d).1 ≠ .ok ()) → visible (db.commit d).2 = visible d
  visible_of_rollback {d} :
    visible (db.rollback d).2 = visible d

namespace Session

variable {db : Database δ} {visible pending : δ → List Row} {call : Call} {s s' : Session δ}
  {r : Reply}

-- Before each statement others may take the transaction for themselves, until some instant.
def executeAmong (db : Database δ) (busyUntil : Call → Session δ → Instant) :
    Executor (Session δ) :=
  fun call s => executeInTransaction db call { s with busyUntil := busyUntil call s }

namespace Execution

theorem visible_eq (t : db.Transactional visible pending) (e : Execution db call s r s') :
    visible s'.database = visible s.database := by
  cases e
  case answered he _ => exact t.visible_of_execute he
  case abandoned => exact t.visible_of_abandon
  all_goals rfl

theorem pending_of_ok {count : Nat} (t : db.Transactional visible pending)
    (e : Execution db call s r s') (h : r.answer = .ok count) :
    ∃ bound, bindAll call.arguments = .ok bound ∧
      pending s'.database = pending s.database ++ [⟨call.statement, bound⟩] := by
  cases e
  case answered bound response _ _ hb _ _ he _ =>
    cases ha : response.answer
    case error => simp [reply, ha, Except.mapError] at h
    case ok => exact ⟨bound, hb, t.pending_of_answered he ha⟩
  all_goals cases h

theorem pending_of_error {failure : Executor.Failure} (t : db.Transactional visible pending)
    (e : Execution db call s r s') (h : r.answer = .error failure) (hf : failure.isRetryable) :
    pending s'.database = pending s.database := by
  cases e
  case answered response _ _ _ _ _ he _ =>
    cases ha : response.answer
    case ok => simp [reply, ha, Except.mapError] at h
    case error => exact t.pending_of_refused he ha
  case abandoned =>
    cases h
    cases hf
  all_goals rfl

end Execution

theorem mapError_failedTo {what : String} {result : Except DatabaseError Unit} :
    result.mapError (failedTo what) = .ok () ↔ result = .ok () := by
  cases result <;> simp [Except.mapError]

theorem visible_of_commit (t : db.Transactional visible pending) (h : (s.commit db).1 = .ok ()) :
    visible (s.commit db).2.database = visible s.database ++ pending s.database := by
  cases ho : s.transaction
  case opened =>
    simp only [Session.commit, finish, ho] at h ⊢
    exact t.visible_of_commit (mapError_failedTo.mp h)
  all_goals simp [Session.commit, finish, ho] at h

theorem visible_of_failed_commit (t : db.Transactional visible pending)
    (h : (s.commit db).1 ≠ .ok ()) : visible (s.commit db).2.database = visible s.database := by
  cases ho : s.transaction
  case opened =>
    simp only [Session.commit, finish, ho] at h ⊢
    exact t.visible_of_failed_commit fun hd => h (mapError_failedTo.mpr hd)
  all_goals simp [Session.commit, finish, ho]

theorem visible_rollback (t : db.Transactional visible pending) :
    visible (s.rollback db).2.database = visible s.database := by
  cases ho : s.transaction
  case opened =>
    simp only [Session.rollback, finish, ho]
    exact t.visible_of_rollback
  all_goals simp [Session.rollback, finish, ho]

end Session

-- A table, and what is answered to the next statements.
structure Ledger where
  visible   : List Row
  pending   : List Row
  responses : List Response

namespace Ledger

-- A statement is done even if nobody waits for its answer any more.
def database : Database Ledger where
  execute statement bound _ l :=
    let response := l.responses.headD { answer := .ok 1 }
    let l := { l with responses := l.responses.tail }
    match response.answer with
    | .ok _    => (response, { l with pending := l.pending ++ [⟨statement, bound⟩] })
    | .error _ => (response, l)
  abandon statement bound _ _ l :=
    ⟨l.visible, l.pending ++ [⟨statement, bound⟩], l.responses.tail⟩
  start l    := (.ok (), l)
  commit l   := (.ok (), ⟨l.visible ++ l.pending, [], l.responses⟩)
  rollback l := (.ok (), ⟨l.visible, [], l.responses⟩)

theorem transactional : database.Transactional Ledger.visible Ledger.pending where
  visible_of_execute h := by
    simp only [database] at h
    split at h
    all_goals
      cases h
      rfl
  pending_of_answered h ha := by
    simp only [database] at h
    split at h
    case h_1 =>
      cases h
      rfl
    case h_2 he =>
      cases h
      cases ha.symm.trans he
  pending_of_refused h ha := by
    simp only [database] at h
    split at h
    case h_1 he =>
      cases h
      cases ha.symm.trans he
    case h_2 =>
      cases h
      rfl
  visible_of_abandon := rfl
  visible_of_commit _ := rfl
  visible_of_failed_commit h := absurd rfl h
  visible_of_rollback := rfl

end Ledger

end Postgres

namespace Publisher

open Executor (Call Reply)
open Postgres (Database Ledger Response Row Session bindAll)
open Postgres.Session (executeAmong)

variable {δ : Type} {db : Database δ} {visible pending : δ → List Row}
  {busyUntil : Call → Session δ → Instant} {c : Config} {m : Message} {ms : List Message}
  {s s₁ s₂ : Situation (Session δ)} {r : Run (Session δ)} {reply : Reply}

-- The row that a message is written to, if its arguments can be bound.
def Config.boundRow (c : Config) (m : Message) : Except Executor.Failure Row :=
  (bindAll m.arguments).map (Row.mk c.statement)

-- Rows for messages, one for each, in order.
abbrev Config.RowsFor (c : Config) : List Message → List Row → Prop :=
  List.Forall₂ fun m row => c.boundRow m = .ok row

-- The transaction is as open as before, and nothing new can be seen.
structure Unseen (visible : δ → List Row) (s₁ s₂ : Session δ) : Prop where
  transaction : s₂.transaction = s₁.transaction
  visible     : visible s₂.database = visible s₁.database

theorem Unseen.refl {s : Session δ} : Unseen visible s s := ⟨rfl, rfl⟩

theorem Unseen.trans {s₁ s₂ s₃ : Session δ} (h : Unseen visible s₁ s₂) (h' : Unseen visible s₂ s₃) :
    Unseen visible s₁ s₃ :=
  ⟨h'.transaction.trans h.transaction, h'.visible.trans h.visible⟩

namespace Attempt

-- The statement of the call, and the session that it finds.
theorem execution (a : Attempt c (executeAmong db busyUntil) m s₁ reply s₂) :
    ∃ t, Session.Execution db (c.call m s₁) { s₁.store with busyUntil := t } reply s₂.store :=
  ⟨_, Session.executeInTransaction_execution a.answered⟩

theorem unseen (t : db.Transactional visible pending)
    (a : Attempt c (executeAmong db busyUntil) m s₁ reply s₂) :
    Unseen visible s₁.store s₂.store := by
  have ⟨_, e⟩ := a.execution
  have hv := e.visible_eq t
  exact ⟨e.transaction_eq, hv⟩

theorem pending_of_ok {count : Nat} (t : db.Transactional visible pending)
    (a : Attempt c (executeAmong db busyUntil) m s₁ reply s₂) (h : reply.answer = .ok count) :
    ∃ row, c.boundRow m = .ok row ∧
      pending s₂.store.database = pending s₁.store.database ++ [row] := by
  have ⟨_, e⟩ := a.execution
  have ⟨bound, hb, hp⟩ := e.pending_of_ok t h
  have hb : bindAll m.arguments = .ok bound := hb
  exact ⟨⟨c.statement, bound⟩, by simp [Config.boundRow, hb, Except.map], hp⟩

theorem pending_of_error {failure : Executor.Failure} (t : db.Transactional visible pending)
    (a : Attempt c (executeAmong db busyUntil) m s₁ reply s₂) (h : reply.answer = .error failure)
    (hf : failure.isRetryable) : pending s₂.store.database = pending s₁.store.database := by
  have ⟨_, e⟩ := a.execution
  have hp := e.pending_of_error t h hf
  exact hp

end Attempt

namespace Insertion

variable {k : Nat}

-- However writing a message ends, nothing new can be seen.
theorem unseen (t : db.Transactional visible pending)
    (i : Insertion c (executeAmong db busyUntil) m k s r) :
    Unseen visible s.store r.final.store := by
  induction i
  case stopped => exact .refl
  case again a _ _ _ _ _ hi => exact (a.unseen t).trans hi
  case written a _ => exact a.unseen t
  case interrupted a _ => exact a.unseen t
  case exhausted a _ _ _ => exact a.unseen t
  case cut a _ _ _ _ =>
    have h := a.unseen t
    exact h

theorem pending_of_ok (t : db.Transactional visible pending)
    (i : Insertion c (executeAmong db busyUntil) m k s r) (h : r.result = .ok ()) :
    ∃ row, c.boundRow m = .ok row ∧
      pending r.final.store.database = pending s.store.database ++ [row] := by
  induction i
  case written a ha => exact a.pending_of_ok t ha
  case again a ha hf _ _ _ hi =>
    have ⟨row, hr, hp⟩ := hi h
    exact ⟨row, hr, hp.trans (by rw [a.pending_of_error t ha hf])⟩
  all_goals cases h

end Insertion

namespace Course

theorem unseen (t : db.Transactional visible pending)
    (h : Course c (executeAmong db busyUntil) ms s r) : Unseen visible s.store r.final.store := by
  induction h
  case done => exact .refl
  case failed i _ => exact i.unseen t
  case next i _ _ hi => exact (i.unseen t).trans hi

theorem pending_of_ok (t : db.Transactional visible pending)
    (h : Course c (executeAmong db busyUntil) ms s r) (hr : r.result = .ok ()) :
    ∃ rows, c.RowsFor ms rows ∧
      pending r.final.store.database = pending s.store.database ++ rows := by
  induction h
  case done => exact ⟨[], .nil, by simp⟩
  case failed h => cases hr.symm.trans h
  case next i hi _ hc =>
    have ⟨row, hm, hp⟩ := i.pending_of_ok t hi
    have ⟨rows, hms, hps⟩ := hc hr
    refine ⟨row :: rows, .cons hm hms, hps.trans ?_⟩
    simp [hp]

end Course

section

variable (db busyUntil c ms s)

theorem publish_unseen (t : db.Transactional visible pending) :
    Unseen visible s.store (publish c (executeAmong db busyUntil) ms s).final.store := by
  cases exists_firstInvalid_or_forall_valid ms
  case inl h =>
    have ⟨_, _, h⟩ := h
    rw [publish_of_firstInvalid h]
    exact .refl
  case inr h =>
    have ⟨_, hc, _, _, hf⟩ := publish_course c (executeAmong db busyUntil) s h
    rw [hf]
    exact hc.unseen t

theorem publish_pending_of_ok (t : db.Transactional visible pending)
    (h : (publish c (executeAmong db busyUntil) ms s).result = .ok ()) :
    ∃ rows, c.RowsFor ms rows ∧
      pending (publish c (executeAmong db busyUntil) ms s).final.store.database =
        pending s.store.database ++ rows := by
  cases exists_firstInvalid_or_forall_valid ms
  case inl hi =>
    have ⟨_, _, hi⟩ := hi
    rw [publish_of_firstInvalid hi] at h
    cases h
  case inr hv =>
    have ⟨_, hc, hr, _, hf⟩ := publish_course c (executeAmong db busyUntil) s hv
    rw [hf]
    exact hc.pending_of_ok t (hr.symm.trans h)

end

-- The transaction of a run is committed if the run succeeded, and rolled back otherwise.
def Run.conclude (db : Database δ) (r : Run (Session δ)) :
    Except Executor.Failure Unit × Session δ :=
  match r.result with
  | .ok _    => r.final.store.commit db
  | .error _ => r.final.store.rollback db

namespace Run

theorem conclude_of_ok (h : r.result = .ok ()) : r.conclude db = r.final.store.commit db := by
  simp [conclude, h]

theorem conclude_of_ne_ok (h : r.result ≠ .ok ()) :
    r.conclude db = r.final.store.rollback db := by
  cases hr : r.result
  case ok => exact absurd hr h
  case error => simp [conclude, hr]

theorem transaction_conclude (h : r.final.store.transaction = .opened) :
    (r.conclude db).2.transaction = .finished := by
  unfold conclude
  split
  all_goals simp [Session.commit, Session.rollback, Session.finish, h]

end Run

-- Others may have the transaction for themselves at any time, and the scope may stop at any time.
theorem publish_all_or_nothing (t : db.Transactional visible pending)
    (busyUntil : Call → Session δ → Instant) (c : Config) (ms : List Message)
    (s : Situation (Session δ)) :
    let r := publish c (executeAmong db busyUntil) ms s
    let e := r.conclude db
    -- Whatever happens, the transaction is still open when it is to be ended.
    (s.store.transaction = .opened →
      r.final.store.transaction = .opened ∧ e.2.transaction = .finished) ∧
    -- If publishing and the commit succeed, then one row for each message is added, in order. They
    -- come behind the rows that the transaction had inserted before.
    (r.result = .ok () → e.1 = .ok () →
      ∃ rows, c.RowsFor ms rows ∧
        visible e.2.database =
          visible s.store.database ++ (pending s.store.database ++ rows)) ∧
    -- Otherwise nothing is added.
    (¬(r.result = .ok () ∧ e.1 = .ok ()) →
      visible e.2.database = visible s.store.database) := by
  intro r e
  have u : Unseen visible s.store r.final.store := publish_unseen db busyUntil c ms s t
  refine ⟨fun h => ?_, fun hr he => ?_, fun h => ?_⟩
  case refine_1 =>
    have ho : r.final.store.transaction = .opened := u.transaction.trans h
    exact ⟨ho, Run.transaction_conclude ho⟩
  case refine_2 =>
    have ⟨rows, hrows, hp⟩ := publish_pending_of_ok db busyUntil c ms s t hr
    simp only [e, Run.conclude_of_ok hr] at he ⊢
    exact ⟨rows, hrows, by rw [Session.visible_of_commit t he, u.visible, hp]⟩
  case refine_3 =>
    by_cases hr : r.result = .ok ()
    case pos =>
      have he : (r.final.store.commit db).1 ≠ .ok () :=
        fun he => h ⟨hr, (congrArg Prod.fst (Run.conclude_of_ok hr)).trans he⟩
      simp only [e, Run.conclude_of_ok hr]
      exact (Session.visible_of_failed_commit t he).trans u.visible
    case neg =>
      simp only [e, Run.conclude_of_ne_ok hr]
      exact (Session.visible_rollback t).trans u.visible

-- A statement that was refused is tried again, and all goes well. If the second statement is
-- cancelled, then nothing is added, although both rows have been inserted.
theorem publish_all_or_nothing_in_ledger :
    let c := Config.sample 1
    let ms := [sample "a", sample "b"]
    let refused : Response := ⟨.error .poolClosed, 0⟩
    let stored : Response := ⟨.ok 1, 2⟩
    let s (scope : Scope) (pending : List Row) (responses : List Response) (now : Instant) :
        Situation (Session Ledger) :=
      ⟨{ database := ⟨[], pending, responses⟩, transaction := .opened, busyUntil := 5 }, scope, now⟩
    let switched : Scope := { switch := some ⟨some 8, true⟩ }
    let execute := executeAmong Ledger.database fun _ _ => 5
    let r := publish c execute ms (s .background [] [refused, stored, stored] 0)
    let r' := publish c execute ms (s switched [] [stored, stored] 0)
    (r.result = .ok () ∧ (r.conclude Ledger.database).1 = .ok () ∧
      c.RowsFor ms (r.conclude Ledger.database).2.database.visible) ∧
    (r'.result = .error (.interrupted "b" .cancelled) ∧
      c.RowsFor ms r'.final.store.database.pending ∧
      (r'.conclude Ledger.database).2.database.visible = []) := by
  intro c ms refused stored s switched execute r r'
  have valid : ∀ m ∈ ms, m.validate = .ok () := by decide
  let row (id : String) : Row :=
    ⟨c.statement, [.text (some id), .text (some "orders"), .text (some "shop"),
      .text (some "created"), .text (some "order"), .text none, .text none, .jsonb none,
      .jsonb none, .timestamptz 1000000]⟩
  have a₁ : Attempt c execute (sample "a") (s .background [] [refused, stored, stored] 0)
      ⟨.error Postgres.DatabaseError.poolClosed.failure, 5, false⟩
      (s .background [] [stored, stored] 5) :=
    ⟨rfl, rfl, rfl, rfl⟩
  have a₂ : Attempt c execute (sample "a") (s .background [] [stored, stored] 5)
      ⟨.ok 1, 2, false⟩ (s .background [row "a"] [stored] 7) :=
    ⟨rfl, rfl, rfl, rfl⟩
  have a₃ : Attempt c execute (sample "b") (s .background [row "a"] [stored] 7)
      ⟨.ok 1, 2, false⟩ (s .background [row "a", row "b"] [] 9) :=
    ⟨rfl, rfl, rfl, rfl⟩
  have h : Course c execute ms (s .background [] [refused, stored, stored] 0) _ :=
    .next (.again a₁ rfl rfl (by decide) rfl (.written a₂ rfl)) rfl
      (.next (.written a₃ rfl) rfl .done)
  have a₁' : Attempt c execute (sample "a") (s switched [] [stored, stored] 0)
      ⟨.ok 1, 7, false⟩ (s switched [row "a"] [stored] 7) :=
    ⟨rfl, rfl, rfl, rfl⟩
  have a₂' : Attempt c execute (sample "b") (s switched [row "a"] [stored] 7)
      ⟨.error (.interrupted .cancelled), 1, false⟩ (s switched [row "a", row "b"] [] 8) :=
    ⟨rfl, rfl, rfl, rfl⟩
  have h' : Course c execute ms (s switched [] [stored, stored] 0) _ :=
    .next (.written a₁' rfl) rfl (.failed (.interrupted a₂' rfl) rfl)
  have hr : r.result = .ok () := (h.publish_eq valid).1
  have hr' : r'.result = .error (.interrupted "b" .cancelled) := (h'.publish_eq valid).1
  have hf' : r'.final = s switched [row "a", row "b"] [] 8 :=
    (publish_eq_insertAll valid).2.2.trans (congrArg Run.final h'.insertAll_eq)
  have ⟨ho, hv, _⟩ := publish_all_or_nothing Ledger.transactional (fun _ _ => 5) c ms
    (s .background [] [refused, stored, stored] 0)
  have ⟨_, _, hn⟩ := publish_all_or_nothing Ledger.transactional (fun _ _ => 5) c ms
    (s switched [] [stored, stored] 0)
  have he : (r.conclude Ledger.database).1 = .ok () := by
    rw [Run.conclude_of_ok hr, Session.commit, Session.finish, (ho rfl).1]
    rfl
  have ⟨rows, hrows, hv⟩ := hv hr he
  refine ⟨⟨hr, he, hv ▸ hrows⟩, hr', ?_, hn fun h => ?_⟩
  case refine_1 =>
    rw [hf']
    exact .cons rfl (.cons rfl .nil)
  case refine_2 => cases hr'.symm.trans h.1

end Publisher

end Outbox

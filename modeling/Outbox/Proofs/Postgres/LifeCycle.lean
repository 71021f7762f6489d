import Outbox.Proofs.Postgres.Execution
/-!
The life of a transaction that several share. It is open until the first of them ends it, and
nothing reaches the database through it afterwards.
-/

namespace Outbox.Postgres

open Executor (Call Reply)

variable {δ : Type}

-- What a database is asked for.
inductive Request where
  | statement (text : String) (bound : List Bound)
  | start
  | commit
  | rollback

-- Does a request end a transaction?
def Request.isEnd : Request → Bool
  | commit | rollback => true
  | _                 => false

-- A state of a database, and all requests up to now.
structure Recorded (δ : Type) where
  requests : List Request
  database : δ

def Recorded.note (d : Recorded δ) (request : Request) (database : δ) : Recorded δ :=
  ⟨d.requests ++ [request], database⟩

-- The requests that end a transaction.
def Recorded.ends (d : Recorded δ) : List Request :=
  d.requests.filter Request.isEnd

theorem Recorded.ends_note {d : Recorded δ} {request : Request} {database : δ} :
    (d.note request database).ends = d.ends ++ [request].filter Request.isEnd :=
  List.filter_append ..

-- The same database, which keeps a record of what it is asked for.
def Database.recorded (db : Database δ) : Database (Recorded δ) where
  execute text bound sent d :=
    let (response, database) := db.execute text bound sent d.database
    (response, d.note (.statement text bound) database)
  abandon text bound sent givenUp d :=
    d.note (.statement text bound) (db.abandon text bound sent givenUp d.database)
  start d :=
    let (result, database) := db.start d.database
    (result, d.note .start database)
  commit d :=
    let (result, database) := db.commit d.database
    (result, d.note .commit database)
  rollback d :=
    let (result, database) := db.rollback d.database
    (result, d.note .rollback database)

section

variable {db : Database δ} {d : Recorded δ} {text : String} {bound : List Bound}
  {sent givenUp : Instant}

@[simp] theorem recorded_execute :
    db.recorded.execute text bound sent d =
      ((db.execute text bound sent d.database).1,
        d.note (.statement text bound) (db.execute text bound sent d.database).2) := rfl

@[simp] theorem recorded_abandon :
    db.recorded.abandon text bound sent givenUp d =
      d.note (.statement text bound) (db.abandon text bound sent givenUp d.database) := rfl

@[simp] theorem recorded_commit :
    db.recorded.commit d =
      ((db.commit d.database).1, d.note .commit (db.commit d.database).2) := rfl

@[simp] theorem recorded_rollback :
    db.recorded.rollback d =
      ((db.rollback d.database).1, d.note .rollback (db.rollback d.database).2) := rfl

end

namespace Session

-- What the holders of a transaction do with it. One of them may take it for himself, and run some
-- statements of his own before he gives it back.
inductive Operation where
  | execute (call : Call)
  | use (arrival : Instant) (time : Nat) (statements : List (String × List Bound))
  | commit
  | rollback

-- The request that an operation ends the transaction with.
def Operation.end? : Operation → Option Request
  | commit   => some .commit
  | rollback => some .rollback
  | _        => none

theorem Operation.isEnd_of_end? {op : Operation} {request : Request}
    (h : op.end? = some request) : request.isEnd := by
  cases op <;> cases h <;> rfl

inductive Answer where
  | replied (reply : Reply)
  -- what comes back for the statements; `none` if there is no transaction any more
  | used (responses : Option (List Response))
  | ended (result : Except Executor.Failure Unit)

-- Runs statements one after the other.
def runAll (db : Database δ) (now : Instant) : List (String × List Bound) → δ → List Response × δ
  | [], d => ([], d)
  | (text, bound) :: statements, d =>
    let (response, d) := db.execute text bound now d
    let (responses, d) := runAll db now statements d
    (response :: responses, d)

-- Operations take place in the order in which the transaction is passed on. Whoever has it keeps
-- the others waiting, and who gives up waiting never had it.
def perform (db : Database δ) : Operation → Session δ → Answer × Session δ
  | .execute call, s =>
    let (reply, s') := executeInTransaction db call s
    (.replied reply, { s' with busyUntil := max s.busyUntil (call.now + reply.elapsed) })
  | .use arrival time statements, s =>
    let start := max arrival s.busyUntil
    let s' := { s with busyUntil := start + time }
    if s.transaction = .opened then
      let (responses, database) := runAll db start statements s.database
      (.used (some responses), { s' with database })
    else (.used none, s')
  | .commit, s =>
    let (result, s) := s.commit db
    (.ended result, s)
  | .rollback, s =>
    let (result, s) := s.rollback db
    (.ended result, s)

-- The session behind some operations.
def after (db : Database δ) (ops : List Operation) (s : Session δ) : Session δ :=
  ops.foldl (fun s op => (perform db op s).2) s

variable {db : Database δ} {s s' : Session δ} {t t' : Session (Recorded δ)} {call : Call}
  {r : Reply} {op : Operation} {ops : List Operation}

namespace Execution

theorem ends_eq (e : Execution db.recorded call t r t') : t'.database.ends = t.database.ends := by
  cases e
  case answered he _ =>
    cases he
    simp [Recorded.ends_note, Request.isEnd]
  case abandoned =>
    simp [Database.recorded, Recorded.ends_note, Request.isEnd]
  all_goals rfl

end Execution

theorem ends_runAll {now : Instant} {statements : List (String × List Bound)} {d : Recorded δ} :
    (runAll db.recorded now statements d).2.ends = d.ends := by
  induction statements generalizing d
  case nil => rfl
  case cons hi => simp [runAll, hi, Recorded.ends_note, Request.isEnd]

-- The transaction has not been ended.
structure Live (s : Session (Recorded δ)) : Prop where
  opened : s.transaction = .opened
  ends   : s.database.ends = []

-- The transaction has been ended once.
structure Over (s : Session (Recorded δ)) : Prop where
  finished : s.transaction = .finished
  ends     : s.database.ends.length = 1

theorem Live.perform (h : Live t) (ho : op.end? = none) :
    Live (t.perform db.recorded op).2 := by
  cases op
  case execute call =>
    have e : Execution db.recorded call t _ _ := executeInTransaction_execution rfl
    exact ⟨e.transaction_eq.trans h.opened, e.ends_eq.trans h.ends⟩
  case use =>
    simp only [Session.perform, h.opened]
    exact ⟨rfl, ends_runAll.trans h.ends⟩
  case commit => cases ho
  case rollback => cases ho

variable (db) in
theorem Live.perform_end {request : Request} (h : Live t) (ho : op.end? = some request) :
    (t.perform db.recorded op).2.transaction = .finished ∧
    (t.perform db.recorded op).2.database.requests = t.database.requests ++ [request] := by
  cases op
  case commit =>
    cases ho
    simp [Session.perform, Session.commit, finish, h.opened, Recorded.note]
  case rollback =>
    cases ho
    simp [Session.perform, Session.rollback, finish, h.opened, Recorded.note]
  all_goals cases ho

variable (db op) in
theorem perform_of_finished (h : s.transaction = .finished) :
    (perform db op s).2.transaction = .finished ∧ (perform db op s).2.database = s.database := by
  have hn : s.transaction ≠ .opened := by simp [h]
  cases op
  case execute call =>
    have e : Execution db call s _ _ := executeInTransaction_execution rfl
    have hs : (executeInTransaction db call s).2 = s := e.eq_of_not_opened hn
    simp [perform, hs, h]
  all_goals simp [perform, Session.commit, Session.rollback, finish, h]

theorem Live.after (h : Live t) (ho : ∀ o ∈ ops, o.end? = none) :
    Live (t.after db.recorded ops) := by
  induction ops generalizing t
  case nil => exact h
  case cons hi => exact hi (h.perform (ho _ (.head _))) fun o hm => ho o (.tail _ hm)

variable (db ops) in
theorem after_of_finished (h : s.transaction = .finished) :
    (s.after db ops).transaction = .finished ∧ (s.after db ops).database = s.database := by
  induction ops generalizing s
  case nil => exact ⟨h, rfl⟩
  case cons op ops hi =>
    have ⟨hf, hd⟩ := perform_of_finished db op h
    have ⟨hf', hd'⟩ := hi hf
    exact ⟨hf', hd'.trans hd⟩

-- The first operation that ends the transaction is the last one that reaches the database.
theorem Live.after_end (h : Live t) (ho : ∃ o ∈ ops, o.end? ≠ none) :
    Over (t.after db.recorded ops) := by
  induction ops generalizing t
  case nil => simp at ho
  case cons op ops hi =>
    cases he : op.end?
    case none =>
      refine hi (h.perform he) ?_
      simpa [he] using ho
    case some request =>
      have ⟨hf, hr⟩ := h.perform_end db he
      have ⟨hf', hd⟩ := after_of_finished db.recorded ops hf
      refine ⟨hf', ?_⟩
      calc
        ((t.perform db.recorded op).2.after db.recorded ops).database.ends.length
          = (t.database.ends ++ [request].filter Request.isEnd).length := by
            rw [hd, Recorded.ends, hr, List.filter_append]
            rfl
        _ = 1 := by simp [h.ends, Operation.isEnd_of_end? he]

section

variable {bound : List Bound} {u : Instant} {reason : Stop}

theorem perform_end_of_finished (h : s.transaction = .finished) (ho : op.end? ≠ none) :
    (perform db op s).1 = .ended (.error alreadyFinished) := by
  cases op
  case commit => simp [perform, Session.commit, finish, h]
  case rollback => simp [perform, Session.rollback, finish, h]
  all_goals exact absurd rfl ho

-- The scope of a call stops while the transaction is waited for: who waits is told so at `t`.
def StopsWaiting (s : Session δ) (call : Call) (reason : Stop) (t : Instant) : Prop :=
  call.scope.awaitStop call.now = some (reason, t) ∧ t ≤ s.freeAt call

theorem exists_stopsWaiting (h : call.scope.HasStopped u) (hle : u.wholeMilli ≤ s.freeAt call) :
    ∃ reason t, s.StopsWaiting call reason t := by
  by_cases hn : call.now ≤ u
  case pos =>
    obtain ⟨reason, t, ha, ht⟩ := Scope.exists_awaitStop_eq h hn
    exact ⟨reason, t, ha, Nat.le_trans ht hle⟩
  case neg =>
    have hs : call.scope.stopped? call.now ≠ none := h.mono (Nat.le_of_not_le hn)
    obtain ⟨reason, hs⟩ := Option.ne_none_iff_exists'.mp hs
    exact ⟨reason, call.now, Scope.awaitStop_of_stopped? hs, Nat.le_max_left ..⟩

theorem perform_execute_of_finished (h : s.transaction = .finished)
    (hb : bindAll call.arguments = .ok bound) (hl : ¬∃ reason t, s.StopsWaiting call reason t) :
    (perform db (.execute call) s).1 =
      .replied (Session.reply call (.error alreadyFinished) (s.freeAt call)) := by
  have hr : call.scope.race call.now (s.freeAt call) = .ok (s.freeAt call) :=
    Scope.race_eq_ok_of_awaitStop (Nat.le_max_left ..) fun reason t ht =>
      Nat.lt_of_not_le fun hle => hl ⟨reason, t, ht, hle⟩
  rw [freeAt] at hr ⊢
  simp [perform, executeInTransaction, hb, hr, h]

theorem perform_execute_of_stopsWaiting (hb : bindAll call.arguments = .ok bound)
    (h : s.StopsWaiting call reason u) :
    (perform db (.execute call) s).1 =
        .replied (Session.reply call (.error (.interrupted reason)) u) ∧
      (perform db (.execute call) s).2.database = s.database := by
  have hr : call.scope.race call.now (s.freeAt call) = .error (reason, u) :=
    Scope.race_eq_error_of_awaitStop h.1 h.2
  rw [freeAt] at hr
  simp [perform, executeInTransaction, hb, hr]

theorem perform_execute_of_hasStopped (hb : bindAll call.arguments = .ok bound)
    (hs : call.scope.HasStopped (s.freeAt call)) :
    (perform db (.execute call) s).2.database = s.database ∧
    (s.transaction = .opened →
      ∃ reply reason, (perform db (.execute call) s).1 = .replied reply ∧
        reply.answer = .error (.interrupted reason)) := by
  cases h : executeInTransaction db call s with
  | mk reply s' =>
    have ⟨he, hi⟩ := (executeInTransaction_execution h).of_hasStopped hb hs
    simp only [perform, h]
    refine ⟨congrArg database he, fun h => ?_⟩
    have ⟨reason, hr⟩ := hi h
    exact ⟨reply, reason, rfl, hr⟩

end

-- The session without the record.
def forget (s : Session (Recorded δ)) : Session δ :=
  { s with database := s.database.database }

@[simp] theorem transaction_forget : t.forget.transaction = t.transaction := rfl
@[simp] theorem busyUntil_forget : t.forget.busyUntil = t.busyUntil := rfl
@[simp] theorem database_forget : t.forget.database = t.database.database := rfl

theorem send_forget {bound : List Bound} {now : Instant} :
    send db call bound now t.forget =
      ((send db.recorded call bound now t).1, (send db.recorded call bound now t).2.forget) := by
  unfold send
  split
  case h_1 => rfl
  case h_2 =>
    cases he : db.execute call.statement bound now t.database.database
    simp only [recorded_execute, recorded_abandon, database_forget, he]
    split <;> rfl

theorem executeInTransaction_forget :
    executeInTransaction db call t.forget =
      ((executeInTransaction db.recorded call t).1,
        (executeInTransaction db.recorded call t).2.forget) := by
  unfold executeInTransaction
  simp only [busyUntil_forget]
  split
  case h_1 => rfl
  case h_2 =>
    split
    case h_1 => rfl
    case h_2 =>
      by_cases ho : t.transaction = .opened
      case pos =>
        rw [if_pos (transaction_forget.trans ho), if_pos ho]
        exact send_forget
      case neg =>
        rw [if_neg (transaction_forget ▸ ho), if_neg ho]

theorem runAll_recorded {now : Instant} {statements : List (String × List Bound)} {d : Recorded δ} :
    runAll db now statements d.database =
      ((runAll db.recorded now statements d).1,
        (runAll db.recorded now statements d).2.database) := by
  induction statements generalizing d
  case nil => rfl
  case cons head _ hi =>
    have h : runAll db now _ (db.execute head.1 head.2 now d.database).2 = _ :=
      hi (d := d.note (.statement head.1 head.2) _)
    simp only [runAll, recorded_execute, h]

variable (db t op) in
-- Keeping a record makes no difference.
theorem perform_forget :
    perform db op t.forget =
      ((perform db.recorded op t).1, (perform db.recorded op t).2.forget) := by
  cases op
  case execute call =>
    simp only [perform, executeInTransaction_forget]
    rfl
  case use arrival time statements =>
    simp only [perform, busyUntil_forget, database_forget, runAll_recorded]
    by_cases ho : t.transaction = .opened
    case pos =>
      rw [if_pos (transaction_forget.trans ho), if_pos ho]
      rfl
    case neg =>
      rw [if_neg (transaction_forget ▸ ho), if_neg ho]
      rfl
  all_goals
    simp only [perform, Session.commit, Session.rollback, finish, transaction_forget]
    cases ho : t.transaction <;> rfl

theorem after_forget : t.forget.after db ops = (t.after db.recorded ops).forget := by
  induction ops generalizing t
  case nil => rfl
  case cons op ops hi =>
    have h := congrArg Prod.snd (perform_forget db t op)
    simp only [after, List.foldl_cons] at hi ⊢
    rw [h, hi]

-- A transaction that nobody has used yet, of a database that was asked for nothing.
def adopted (d : δ) : Session (Recorded δ) :=
  { database := ⟨[], d⟩, transaction := .opened }

end Session

end Outbox.Postgres

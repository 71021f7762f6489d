import Outbox.Proofs.Postgres.Atomicity
import Outbox.Proofs.Postgres.Refusal
import Outbox.Proofs.Publisher.Simulation
/-!
A pool of connections and a transaction that nobody else uses. Whoever runs statements through the
one or the other gets the same answers at the same instants, as long as the databases behind them
answer alike.
-/

namespace Outbox

namespace Postgres

open Executor (Call Reply)
open Publisher (Config publish publish_eq_insertAll sample)

variable {δ ε : Type} {db : Database δ} {db' : Database ε} {rel : δ → ε → Prop}

-- From related states on, the databases answer the same statements alike and after the same time,
-- and get to related states.
structure Database.Alike (db : Database δ) (db' : Database ε) (rel : δ → ε → Prop) : Prop where
  response (text bound sent) {d e} : rel d e →
    (db.execute text bound sent d).1 = (db'.execute text bound sent e).1
  execute (text bound sent) {d e} : rel d e →
    rel (db.execute text bound sent d).2 (db'.execute text bound sent e).2
  abandon (text bound sent givenUp) {d e} : rel d e →
    rel (db.abandon text bound sent givenUp d) (db'.abandon text bound sent givenUp e)

-- The database as it is seen through a pool. A closed pool refuses all statements at once.
def Database.throughPool (closed : Bool) (db : Database δ) : Database δ :=
  if closed then
    { db with
      execute := fun _ _ _ d => ({ answer := .error .poolClosed }, d)
      abandon := fun _ _ _ _ d => d }
  else db

-- The states are related, and since the records `before` and `before'` the same requests have been
-- made, of which a closed pool passes on none.
structure Recorded.Beside (rel : δ → ε → Prop) (closed : Bool) (before before' : List Request)
    (d : Recorded δ) (e : Recorded ε) : Prop where
  database : rel d.database e.database
  requests : ∃ sent, d.requests = before ++ (if closed then [] else sent) ∧
    e.requests = before' ++ sent

section

variable {before before' : List Request} {d : Recorded δ} {e : Recorded ε} {request : Request}
  {database : δ} {database' : ε}

theorem Recorded.Beside.note (b : Recorded.Beside rel false before before' d e)
    (h : rel database database') :
    Recorded.Beside rel false before before' (d.note request database)
      (e.note request database') where
  database := h
  requests := by
    obtain ⟨sent, hd, he⟩ := b.requests
    refine ⟨sent ++ [request], ?_, ?_⟩
    case refine_1 => exact (congrArg (· ++ [request]) hd).trans (List.append_assoc ..)
    case refine_2 => exact (congrArg (· ++ [request]) he).trans (List.append_assoc ..)

theorem Recorded.Beside.note_closed (b : Recorded.Beside rel true before before' d e)
    (h : rel database database') :
    Recorded.Beside rel true before before' { d with database } (e.note request database') where
  database := h
  requests := by
    obtain ⟨sent, hd, he⟩ := b.requests
    exact ⟨sent ++ [request], hd, (congrArg (· ++ [request]) he).trans (List.append_assoc ..)⟩

end

-- Databases that answer alike do so with records, too.
theorem Database.Alike.recorded {closed : Bool} {before before' : List Request}
    (h : (db.throughPool closed).Alike db' rel) :
    (db.recorded.throughPool closed).Alike db'.recorded
      (Recorded.Beside rel closed before before') := by
  cases closed
  case false =>
    exact
      { response := fun _ _ _ _ _ b => h.response _ _ _ b.database
        execute  := fun _ _ _ _ _ b => b.note (h.execute _ _ _ b.database)
        abandon  := fun _ _ _ _ _ _ b => b.note (h.abandon _ _ _ _ b.database) }
  case true =>
    exact
      { response := fun _ _ _ _ _ b => h.response _ _ _ b.database
        execute  := fun _ _ _ _ _ b => b.note_closed (h.execute _ _ _ b.database)
        abandon  := fun _ _ _ _ _ _ b => b.note_closed (h.abandon _ _ _ _ b.database) }

namespace Session

variable {call : Call} {bound : List Bound} {s : Session δ} {t : Session ε} {closed : Bool}
  {start now : Instant}

-- Where the way to the database is free, the statement is sent at once; that the scope is looked at
-- again when the transaction has been got makes no difference.
theorem execute_eq_send {route : Route} (h : bindAll call.arguments = .ok bound)
    (hf : route.IsFree s call.now) :
    route.execute db call s = send db call bound call.now s := by
  cases hs : call.scope.stopped? call.now
  case none => exact execute_of_isFree h hf hs
  case some reason =>
    rw [execute_of_stopped h hs]
    simp [send, hs, reply]

theorem executePooled_eq_send (h : bindAll call.arguments = .ok bound) :
    executePooled db call s = send (db.throughPool s.poolClosed) call bound call.now s := by
  cases hc : s.poolClosed
  case false =>
    have hp : Route.pooled.execute db call s = _ := execute_eq_send h hc
    exact hp
  case true =>
    simp only [executePooled, h, hc]
    cases hs : call.scope.stopped? call.now
    case some => simp [send, hs]
    case none =>
      have hr : call.scope.race call.now call.now = .ok call.now :=
        Scope.race_of_not_hasStopped (Nat.le_refl _) (Scope.not_hasStopped_iff.mpr hs)
      simp [send, hs, Database.throughPool, hr, reply, Except.mapError]

-- The transaction of `t` is open, nobody else has it from the instant `start` on, and the databases
-- of `s` and `t` are in related states.
structure Beside (rel : δ → ε → Prop) (closed : Bool) (start : Instant) (s : Session δ)
    (t : Session ε) : Prop where
  pool     : s.poolClosed = closed
  opened   : t.transaction = .opened
  free     : t.busyUntil ≤ start
  database : rel s.database t.database

theorem send_beside (h : db.Alike db' rel) (b : s.Beside rel closed start t) :
    (send db call bound now s).1 = (send db' call bound now t).1 ∧
      (send db call bound now s).2.Beside rel closed start (send db' call bound now t).2 := by
  simp only [send, h.response call.statement bound now b.database]
  cases call.scope.stopped? now
  case some => exact ⟨rfl, b⟩
  case none =>
    dsimp only
    cases call.scope.race now (now + (db'.execute call.statement bound now t.database).1.elapsed)
    case ok => exact ⟨rfl, b.pool, b.opened, b.free, h.execute _ _ _ b.database⟩
    case error => exact ⟨rfl, b.pool, b.opened, b.free, h.abandon _ _ _ _ b.database⟩

theorem execute_beside (h : (db.throughPool closed).Alike db' rel)
    (b : s.Beside rel closed start t) (hs : start ≤ call.now) :
    (executePooled db call s).1 = (executeInTransaction db' call t).1 ∧
      (executePooled db call s).2.Beside rel closed start (executeInTransaction db' call t).2 := by
  cases hb : bindAll call.arguments
  case error failure =>
    have hp : Route.pooled.execute db call s = _ := execute_of_error hb
    have ht : Route.inTransaction.execute db' call t = _ := execute_of_error hb
    simp only [Route.execute] at hp ht
    rw [hp, ht]
    exact ⟨rfl, b⟩
  case ok bound =>
    have ht : Route.inTransaction.execute db' call t = _ :=
      execute_eq_send hb ⟨b.opened, Nat.le_trans b.free hs⟩
    simp only [Route.execute] at ht
    rw [executePooled_eq_send hb, b.pool, ht]
    exact send_beside h b

-- A pool and a transaction that is free are executors that answer alike.
theorem executors_alike (h : (db.throughPool closed).Alike db' rel) :
    (executePooled db).Alike (executeInTransaction db') start (Beside rel closed start) where
  reply _ _ _ hs b := (execute_beside h b hs).1
  state _ _ _ hs b := (execute_beside h b hs).2

-- What is sent for a call: its statement with what is bound, or nothing.
def SentFor (call : Call) (sent : List Request) : Prop :=
  sent = [] ∨ ∃ bound, bindAll call.arguments = .ok bound ∧ sent = [.statement call.statement bound]

theorem sentFor_executeInTransaction {s : Session (Recorded δ)} :
    ∃ sent, SentFor call sent ∧
      (executeInTransaction db.recorded call s).2.database.requests =
        s.database.requests ++ sent := by
  cases hb : bindAll call.arguments
  case error =>
    have hp : Route.inTransaction.execute db.recorded call s = _ := execute_of_error hb
    simp only [Route.execute] at hp
    exact ⟨[], .inl rfl, by rw [hp, List.append_nil]⟩
  case ok bound =>
    obtain ⟨sent, hr, hs⟩ : ∃ sent,
        (Route.inTransaction.execute db.recorded call s).2.database.requests =
          s.database.requests ++ sent ∧ _ := exists_requests_execute hb
    exact ⟨sent, hs.imp_right fun h => ⟨bound, hb, h⟩, hr⟩

-- A pool and a transaction that is open and free agree, if the databases behind them answer alike.
theorem pool_agrees_with_transaction (s : Session (Recorded δ)) (t : Session (Recorded ε))
    (start : Instant) (alike : (db.throughPool s.poolClosed).Alike db' rel)
    (related : rel s.database.database t.database.database) (opened : t.transaction = .opened)
    (free : t.busyUntil ≤ start) :
    -- A call gets the same answer, and gets it at the same instant. The databases are sent the same
    -- for it, its statement or nothing; a closed pool passes nothing on.
    (∀ call : Call, start ≤ call.now →
      let r := executePooled db.recorded call s
      let r' := executeInTransaction db'.recorded call t
      r.1 = r'.1 ∧ ∃ sent, SentFor call sent ∧
        r.2.database.requests = s.database.requests ++ (if s.poolClosed then [] else sent) ∧
        r'.2.database.requests = t.database.requests ++ sent) ∧
    -- A publish call makes the same calls, which get the same replies, reports the same and ends in
    -- the same way.
    (∀ (c : Config) (ms : List Message) (scope : Scope) (now : Instant), start ≤ now →
      let r := publish c (executePooled db.recorded) ms ⟨s, scope, now⟩
      let r' := publish c (executeInTransaction db'.recorded) ms ⟨t, scope, now⟩
      r.result = r'.result ∧ r.calls = r'.calls ∧ r.notices = r'.notices ∧
      r.final.scope = r'.final.scope ∧ r.final.now = r'.final.now ∧
      ∃ sent, r.final.store.database.requests =
          s.database.requests ++ (if s.poolClosed then [] else sent) ∧
        r'.final.store.database.requests = t.database.requests ++ sent) := by
  let records : Recorded δ → Recorded ε → Prop :=
    Recorded.Beside rel s.poolClosed s.database.requests t.database.requests
  have h : (db.recorded.throughPool s.poolClosed).Alike db'.recorded records := alike.recorded
  have b : s.Beside records s.poolClosed start t :=
    ⟨rfl, opened, free, related, [], by simp⟩
  refine ⟨fun call hs => ?_, fun c ms scope now hs => ?_⟩
  case refine_1 =>
    obtain ⟨hr, b'⟩ := execute_beside h b hs
    obtain ⟨sent, hsent, hq⟩ := sentFor_executeInTransaction
    obtain ⟨sent', hq', ht⟩ := b'.database.requests
    obtain rfl : sent = sent' := List.append_cancel_left (hq.symm.trans ht)
    exact ⟨hr, sent, hsent, hq', ht⟩
  case refine_2 =>
    obtain ⟨t', he, b'⟩ :=
      Publisher.publish_follows (executors_alike h) ⟨s, scope, now⟩ t ⟨hs, b⟩
    have he : publish c (executeInTransaction db'.recorded) ms ⟨t, scope, now⟩ = _ := he
    rw [he]
    exact ⟨rfl, rfl, rfl, rfl, rfl, b'.store.database.requests⟩

end Session

-- A ledger that commits each statement by itself.
def Ledger.autocommitting : Database Ledger :=
  { Ledger.database with
    execute := fun text bound sent l =>
      let (response, l) := Ledger.database.execute text bound sent l
      (response, (Ledger.database.commit l).2)
    abandon := fun text bound sent givenUp l =>
      (Ledger.database.commit (Ledger.database.abandon text bound sent givenUp l)).2 }

-- What is pending in the one ledger can be seen in the other.
def Ledger.Matches (l l' : Ledger) : Prop :=
  l.responses = l'.responses ∧ l.visible ++ l.pending = l'.visible ++ l'.pending

theorem Ledger.autocommitting_alike : autocommitting.Alike database Matches where
  response _ _ _ _ _ h := by
    obtain ⟨hr, _⟩ := h
    simp only [autocommitting, database, hr]
    split <;> rfl
  execute _ _ _ _ _ h := by
    obtain ⟨hr, hv⟩ := h
    simp only [autocommitting, database, hr]
    split
    case h_1 => exact ⟨rfl, by simp [← List.append_assoc, hv]⟩
    case h_2 => exact ⟨rfl, by simp [hv]⟩
  abandon _ _ _ _ _ _ h := by
    obtain ⟨hr, hv⟩ := h
    exact ⟨congrArg List.tail hr, by simp [autocommitting, database, ← List.append_assoc, hv]⟩

-- A connection breaks and the statement is tried again; another one is cut short by the switch.
theorem Session.pool_agrees_with_transaction_in_ledger :
    let c := Config.sample 1
    let ms := [sample "a", sample "b"]
    let responses : List Response :=
      [⟨.error (.other "connection reset by peer"), 1⟩, ⟨.ok 1, 2⟩, ⟨.ok 1, 9⟩]
    let s : Session (Recorded Ledger) := { database := ⟨[.start], [], [], responses⟩ }
    let t : Session (Recorded Ledger) :=
      { database := ⟨[], [], [], responses⟩, transaction := .opened }
    let scope : Scope := { switch := some ⟨some 8, true⟩ }
    let r := publish c (executePooled Ledger.autocommitting.recorded) ms ⟨s, scope, 0⟩
    let r' := publish c (executeInTransaction Ledger.database.recorded) ms ⟨t, scope, 0⟩
    r.result = r'.result ∧ r.calls = r'.calls ∧ r.notices = r'.notices ∧
    r'.result = .error (.interrupted "b" .cancelled) ∧ r'.final.now = 8 ∧
    r.final.store.database.database.visible.length = 2 ∧
    r'.final.store.database.database.pending.length = 2 := by
  intro c ms responses s t scope r r'
  have valid : ∀ m ∈ ms, m.validate = .ok () := by decide
  obtain ⟨_, h⟩ := Session.pool_agrees_with_transaction s t 0 Ledger.autocommitting_alike
    ⟨rfl, rfl⟩ rfl (Nat.le_refl 0)
  obtain ⟨hr, hc, hn, _, _, _⟩ := h c ms scope 0 (Nat.le_refl 0)
  obtain ⟨hr', _, hf'⟩ : r'.result = _ ∧ _ ∧ r'.final = _ := publish_eq_insertAll valid
  obtain ⟨_, _, hf⟩ : _ ∧ _ ∧ r.final = _ := publish_eq_insertAll valid
  refine ⟨hr, hc, hn, hr'.trans ?_, ?_, ?_, ?_⟩
  case refine_1 => decide +kernel
  case refine_2 => rw [hf']; decide +kernel
  case refine_3 => rw [hf]; decide +kernel
  case refine_4 => rw [hf']; decide +kernel

end Postgres
end Outbox

import Outbox.Postgres.Session
import Outbox.Proofs.Waiting
/-!
The ways in which a statement in a transaction can go, and at which of them the database is reached.
-/

namespace Outbox.Postgres.Session

open Executor (Call Reply)

variable {δ : Type} {db : Database δ} {call : Call} {s s' : Session δ} {r : Reply}

-- The instant at which the transaction is free for a call.
def freeAt (s : Session δ) (call : Call) : Instant :=
  max call.now s.busyUntil

-- What becomes of a statement in the transaction. The database is reached only in the last two
-- ways, and the transaction is left as it is in all of them.
inductive Execution (db : Database δ) (call : Call) (s : Session δ) : Reply → Session δ → Prop
  | malformed {failure} :
    (bindAll call.arguments = .error failure) →
    Execution db call s { answer := .error failure } s
  | waited {bound reason t} :
    (bindAll call.arguments = .ok bound) →
    (call.scope.race call.now (s.freeAt call) = .error (reason, t)) →
    Execution db call s (reply call (.error (.interrupted reason)) t) s
  | closed {bound} :
    (bindAll call.arguments = .ok bound) →
    (call.scope.race call.now (s.freeAt call) = .ok (s.freeAt call)) →
    (s.transaction ≠ .opened) →
    Execution db call s (reply call (.error alreadyFinished) (s.freeAt call)) s
  | late {bound reason} :
    (bindAll call.arguments = .ok bound) →
    (s.transaction = .opened) →
    (call.scope.stopped? (s.freeAt call) = some reason) →
    Execution db call s (reply call (.error (.interrupted reason)) (s.freeAt call)) s
  | answered {bound response database t} :
    (bindAll call.arguments = .ok bound) →
    (s.transaction = .opened) →
    (call.scope.stopped? (s.freeAt call) = none) →
    (db.execute call.statement bound (s.freeAt call) s.database = (response, database)) →
    (call.scope.race (s.freeAt call) (s.freeAt call + response.elapsed) = .ok t) →
    Execution db call s (reply call (response.answer.mapError DatabaseError.failure) t)
      { s with database }
  | abandoned {bound response database reason t} :
    (bindAll call.arguments = .ok bound) →
    (s.transaction = .opened) →
    (call.scope.stopped? (s.freeAt call) = none) →
    (db.execute call.statement bound (s.freeAt call) s.database = (response, database)) →
    (call.scope.race (s.freeAt call) (s.freeAt call + response.elapsed) = .error (reason, t)) →
    Execution db call s (reply call (.error (.interrupted reason)) t)
      { s with database := db.abandon call.statement bound (s.freeAt call) t s.database }

theorem executeInTransaction_execution (h : executeInTransaction db call s = (r, s')) :
    Execution db call s r s' := by
  unfold executeInTransaction at h
  split at h
  case h_1 hb =>
    cases h
    exact .malformed hb
  case h_2 hb =>
    split at h
    case h_1 hr =>
      cases h
      exact .waited hb hr
    case h_2 t hr =>
      obtain rfl : t = s.freeAt call := Scope.eq_finish_of_race_eq_ok hr
      split at h
      case isFalse ho =>
        cases h
        exact .closed hb hr ho
      case isTrue ho =>
        unfold send at h
        split at h
        case h_1 hs =>
          cases h
          exact .late hb ho hs
        case h_2 hs =>
          dsimp only at h
          split at h
          case h_1 ht =>
            cases h
            exact .answered hb ho hs rfl ht
          case h_2 ht =>
            cases h
            exact .abandoned hb ho hs rfl ht

namespace Execution

theorem transaction_eq (e : Execution db call s r s') : s'.transaction = s.transaction := by
  cases e <;> rfl

-- Through a transaction that is not open nothing reaches the database.
theorem eq_of_not_opened (e : Execution db call s r s') (h : s.transaction ≠ .opened) : s' = s := by
  cases e
  case late ho _ => exact absurd ho h
  case answered ho _ _ _ => exact absurd ho h
  case abandoned ho _ _ _ => exact absurd ho h
  all_goals rfl

-- A statement for which the transaction is free too late is not sent. If the transaction is open
-- the statement is interrupted, also if nobody has been told yet that its deadline has passed.
theorem of_hasStopped {bound : List Bound} (e : Execution db call s r s')
    (hb : bindAll call.arguments = .ok bound) (hs : call.scope.HasStopped (s.freeAt call)) :
    s' = s ∧ (s.transaction = .opened → ∃ reason, r.answer = .error (.interrupted reason)) := by
  cases e
  case malformed h => cases hb.symm.trans h
  case answered h _ _ => exact absurd h hs
  case abandoned h _ _ => exact absurd h hs
  case waited => exact ⟨rfl, fun _ => ⟨_, rfl⟩⟩
  case late => exact ⟨rfl, fun _ => ⟨_, rfl⟩⟩
  case closed ho => exact ⟨rfl, fun h => absurd h ho⟩

end Execution

end Outbox.Postgres.Session

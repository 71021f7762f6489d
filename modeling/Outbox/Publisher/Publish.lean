import Outbox.Publisher.Notice

namespace Outbox.Publisher

open Executor (Call Reply)

structure Situation (σ : Type) where
  store : σ
  scope : Scope
  now   : Instant

structure Run (σ : Type) where
  result  : Except Failure Unit
  calls   : List (Call × Reply)
  notices : List Notice
  final   : Situation σ

namespace Run

def ended (result : Except Failure Unit) (notices : List Notice) (s : Situation σ) : Run σ :=
  ⟨result, [], notices, s⟩

def prepend (calls : List (Call × Reply)) (notices : List Notice) (r : Run σ) : Run σ :=
  { r with calls := calls ++ r.calls, notices := notices ++ r.notices }

-- Goes on with further work, unless the run failed.
def andThen (r : Run σ) (next : Situation σ → Run σ) : Run σ :=
  match r.result with
  | .ok _    => (next r.final).prepend r.calls r.notices
  | .error _ => r

end Run

variable {σ : Type}

def Config.call (c : Config) (m : Message) (s : Situation σ) : Call :=
  ⟨s.scope, s.now, c.statement, m.arguments⟩

def Situation.after (call : Call) (reply : Reply) (store : σ) : Situation σ :=
  ⟨store, call.scopeAfter reply, call.now + reply.elapsed⟩

-- Attempt number `attempt` to write a message, and up to `left` further ones.
def insertFrom (c : Config) (ex : Executor σ) (m : Message) (left attempt : Nat)
    (s : Situation σ) : Run σ :=
  match s.scope.stopped? s.now with
  | some reason => .ended (.error (.interrupted m.eventId reason)) [] s
  | none =>
    let call := c.call m s
    let (reply, store) := ex call s.store
    let s := Situation.after call reply store
    match reply.answer with
    | .ok _ => ⟨.ok (), [(call, reply)], [], s⟩
    | .error (.interrupted reason) =>
      ⟨.error (.interrupted m.eventId reason), [(call, reply)], [], s⟩
    | .error failure =>
      match left with
      | 0 =>
        ⟨.error (.retriesExhausted m.eventId c.maxRetries.toNat attempt failure), [(call, reply)],
          [.exhausted m.eventId attempt failure], s⟩
      | left + 1 =>
        let backoff := c.policy.backoffAfter attempt
        let notice :=
          .retrying m.eventId attempt c.policy.maxAttempts backoff.wholeMillis failure
        match Retry.wait s.scope s.now backoff with
        | .error (reason, t) =>
          ⟨.error (.interrupted m.eventId reason), [(call, reply)], [notice], { s with now := t }⟩
        | .ok t =>
          (insertFrom c ex m left (attempt + 1) { s with now := t }).prepend
            [(call, reply)] [notice]

def insert (c : Config) (ex : Executor σ) (m : Message) (s : Situation σ) : Run σ :=
  insertFrom c ex m (c.policy.maxAttempts - 1) 1 s

def insertAll (c : Config) (ex : Executor σ) : List Message → Situation σ → Run σ
  | [], s      => .ended (.ok ()) [] s
  | m :: ms, s => (insert c ex m s).andThen (insertAll c ex ms)

def chunks (size : Nat) (pos : 0 < size) (l : List α) : List (List α) :=
  match l with
  | [] => []
  | a :: as => (a :: as).take size :: chunks size pos ((a :: as).drop size)
termination_by l.length
decreasing_by
  simp only [List.length_drop, List.length_cons]
  omega

theorem flatten_chunks (size : Nat) (pos : 0 < size) (l : List α) :
    (chunks size pos l).flatten = l := by
  fun_induction chunks size pos l with
  | case1 => rfl
  | case2 a as ih => rw [List.flatten_cons, ih, List.take_append_drop]

def insertBatches (c : Config) (ex : Executor σ) (count index : Nat) :
    List (List Message) → Situation σ → Run σ
  | [], s => .ended (.ok ()) [] s
  | batch :: batches, s =>
    ((insertAll c ex batch s).prepend [] [.batch index count batch.length]).andThen
      (insertBatches c ex count (index + 1) batches)

def firstInvalid? (index : Nat) : List Message → Option (Nat × Message.Defects)
  | [] => none
  | m :: ms =>
    match m.validate with
    | .error defects => some (index, defects)
    | .ok () => firstInvalid? (index + 1) ms

-- Writes messages in order. Nothing is written if one of them is not complete.
def publish (c : Config) (ex : Executor σ) (messages : List Message) (s : Situation σ) : Run σ :=
  match messages with
  | [] => .ended (.ok ()) [] s
  | _ :: _ =>
    match firstInvalid? 0 messages with
    | some (index, defects) =>
      .ended (.error (.invalidMessage index defects)) [.invalid index defects] s
    | none =>
      let batches := chunks c.batchSize c.batchSize_pos messages
      (insertBatches c ex batches.length 0 batches s).andThen fun s =>
        .ended (.ok ()) [.published messages.length batches.length c.table] s

def close (_ : Config) : Except Failure Unit := .ok ()

end Outbox.Publisher

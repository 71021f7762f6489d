import Outbox.Executor
import Outbox.Log
import Outbox.Publisher.Config

namespace Outbox.Publisher

inductive Failure where
  | invalidMessage (index : Nat) (source : Message.Defects)
  | retriesExhausted (messageId : String) (retries attempts : Nat) (source : Executor.Failure)
  | interrupted (messageId : String) (reason : Stop)
  deriving DecidableEq, Repr

namespace Failure

def kind : Failure → String
  | invalidMessage ..   => "InvalidMessage"
  | retriesExhausted .. => "RetriesExhausted"
  | interrupted ..      => "Interrupted"

def message : Failure → String
  | invalidMessage index source => s!"invalid message at index {index}: {source.message}"
  | retriesExhausted messageId retries attempts source =>
    s!"failed to publish message {messageId} after {attempts} attempts ({retries} retries): "
      ++ source.message
  | interrupted messageId reason =>
    s!"publishing message {messageId} interrupted: {reason.message}"

def messageId? : Failure → Option String
  | invalidMessage ..            => none
  | retriesExhausted messageId .. => some messageId
  | interrupted messageId _      => some messageId

def hasSource : Failure → Bool
  | invalidMessage ..   => true
  | retriesExhausted .. => true
  | interrupted ..      => false

end Failure

inductive Notice where
  | batch (index count size : Nat)
  | retrying (messageId : String) (attempt maxAttempts backoffMillis : Nat)
      (failure : Executor.Failure)
  | exhausted (messageId : String) (attempts : Nat) (failure : Executor.Failure)
  | invalid (index : Nat) (defects : Message.Defects)
  | published (messages batches : Nat) (table : Table.Name)
  deriving DecidableEq

def Notice.event : Notice → Log.Event
  | batch index count size =>
    ⟨.debug, "Publishing outbox batch",
      [("batch", .number index), ("batches", .number count), ("size", .number size)]⟩
  | retrying messageId attempt maxAttempts backoffMillis failure =>
    ⟨.warn, "Outbox insert failed, retrying",
      [("message_id", .text messageId), ("attempt", .number attempt),
       ("max_attempts", .number maxAttempts), ("backoff_ms", .number backoffMillis),
       ("error", .text failure.message)]⟩
  | exhausted messageId attempts failure =>
    ⟨.error, "Outbox insert failed, retries exhausted",
      [("message_id", .text messageId), ("attempts", .number attempts),
       ("error", .text failure.message)]⟩
  | invalid index defects =>
    ⟨.warn, "Rejected invalid outbox message",
      [("index", .number index), ("error", .text defects.message)]⟩
  | published messages batches table =>
    ⟨.info, "Published outbox messages",
      [("messages", .number messages), ("batches", .number batches), ("table", .text table.text)]⟩

end Outbox.Publisher

import Outbox.Proofs.Postgres.Binding
import Outbox.Proofs.Postgres.LifeCycle
/-!
Statements that are refused for their arguments. The arguments are looked at before anything else:
what is malformed among them is found whether or not the statement could be sent at all.
-/

namespace Outbox.Postgres

open Json
open Executor (Call Reply)

variable {bytes : ByteArray} {a : Argument} {b : Bound} {arguments : List Argument}
  {bound : List Bound} {failure : Executor.Failure} {position n : Nat}

-- Bytes that are a single JSON document, blanks around it included, and keep to the limits of
-- values.
def HoldsDocument (bytes : ByteArray) : Prop :=
  ∃ (b : List Char) (t : Tree) (r : List Char), AreBlank b ∧ t.IsProper ∧ t.IsBounded ∧ AreBlank r ∧
    bytes = (String.ofList (b ++ (t.source ++ r))).toUTF8

theorem exists_document?_iff_holdsDocument :
    (∃ v, document? bytes = some v) ↔ HoldsDocument bytes := by
  have hd : (∃ v, document? bytes = some v) ↔
      ∃ s : String, bytes = s.toUTF8 ∧ ∃ v, Value.parse s = .ok v := by
    simp only [document?_eq_some_iff]
    exact ⟨fun ⟨v, s, hs, hv⟩ => ⟨s, hs, v, hv⟩, fun ⟨s, hs, v, hv⟩ => ⟨v, s, hs, hv⟩⟩
  simp only [hd, exists_parse_iff, isDocument_iff, parseTree_eq_ok_iff, HoldsDocument]
  constructor
  case mp =>
    rintro ⟨s, rfl, t, ⟨b, r, hb, ht, hr, hs⟩, hf⟩
    exact ⟨b, t, r, hb, ht, hf, hr, by rw [← hs, String.ofList_toList]⟩
  case mpr =>
    rintro ⟨b, t, r, hb, ht, hf, hr, rfl⟩
    exact ⟨_, rfl, t, ⟨b, r, hb, ht, hr, String.toList_ofList⟩, hf⟩

-- JSON that is there must be a document; no other argument can be malformed.
def IsMalformed : Argument → Prop
  | .json (some bytes) => ¬HoldsDocument bytes
  | _                  => False

-- What is bound for an argument; what is absent is NULL.
inductive Binds : Argument → Bound → Prop
  | text {s} : Binds (.text s) (.text (some s))
  | noText : Binds (.nullableText none) (.text none)
  | nullableText {s} : Binds (.nullableText (some s)) (.text (some s))
  | noJson : Binds (.json none) (.jsonb none)
  | json {s : String} {v} :
    (Value.parse s = .ok v) →
    Binds (.json (some s.toUTF8)) (.jsonb (some v))
  | timestamp {t} : Binds (.timestamp t) (.timestamptz t.micros)

-- Is the argument at the position the first one that is malformed? All arguments before it count.
def IsFirstMalformed (arguments : List Argument) (position : Nat) : Prop :=
  ∃ before a after, arguments = before ++ a :: after ∧ position = before.length + 1 ∧
    IsMalformed a ∧ ∀ a ∈ before, ¬IsMalformed a

theorem exists_isFirstMalformed_iff :
    (∃ position, IsFirstMalformed arguments position) ↔
      ∃ bytes, .json (some bytes) ∈ arguments ∧ ¬HoldsDocument bytes := by
  constructor
  case mp =>
    rintro ⟨_, before, a, after, rfl, _, ha, _⟩
    unfold IsMalformed at ha
    split at ha
    case h_1 bytes => exact ⟨bytes, by simp, ha⟩
    case h_2 => cases ha
  case mpr =>
    rintro ⟨bytes, hm, hb⟩
    induction arguments
    case nil => cases hm
    case cons a arguments hi =>
      by_cases ha : IsMalformed a
      case pos => exact ⟨1, [], a, arguments, rfl, rfl, ha, nofun⟩
      case neg =>
        cases hm
        case head => exact absurd hb ha
        case tail hm =>
          obtain ⟨_, before, a', after, rfl, _, ha', hn⟩ := hi hm
          exact ⟨_, a :: before, a', after, rfl, rfl, ha', List.forall_mem_cons.mpr ⟨ha, hn⟩⟩

theorem bind_of_not_isMalformed (position : Nat) (h : ¬IsMalformed a) :
    ∃ b, bind position a = .ok b ∧ Binds a b := by
  cases a
  case text => exact ⟨_, rfl, .text⟩
  case nullableText o =>
    cases o
    case none => exact ⟨_, rfl, .noText⟩
    case some => exact ⟨_, rfl, .nullableText⟩
  case json o =>
    cases o
    case none => exact ⟨_, rfl, .noJson⟩
    case some bytes =>
      obtain ⟨v, hv⟩ := exists_document?_iff_holdsDocument.mpr (not_not.mp h)
      obtain ⟨s, rfl, hs⟩ := document?_eq_some_iff.mp hv
      exact ⟨_, by rw [bind, hv], .json hs⟩
  case timestamp => exact ⟨_, rfl, .timestamp⟩

theorem bind_of_isMalformed (h : IsMalformed a) :
    bind position a = .error (noDocument position) := by
  unfold IsMalformed at h
  split at h
  case h_1 bytes =>
    cases hd : document? bytes
    case none => rw [bind, hd, noDocument]
    case some v => exact absurd (exists_document?_iff_holdsDocument.mp ⟨v, hd⟩) h
  case h_2 => cases h

theorem bindFrom_of_not_isMalformed (h : ∀ a ∈ arguments, ¬IsMalformed a) :
    ∃ bound, bindFrom n arguments = .ok bound ∧ List.Forall₂ Binds arguments bound := by
  induction arguments generalizing n
  case nil => exact ⟨[], rfl, .nil⟩
  case cons a arguments hi =>
    rw [List.forall_mem_cons] at h
    obtain ⟨b, hb, ha⟩ := bind_of_not_isMalformed n h.1
    obtain ⟨bound, hbs, has⟩ := hi (n := n + 1) h.2
    exact ⟨b :: bound, by rw [bindFrom, hb, hbs]; rfl, .cons ha has⟩

theorem bindFrom_of_isFirstMalformed (h : IsFirstMalformed arguments position) :
    bindFrom (n + 1) arguments = .error (noDocument (n + position)) := by
  obtain ⟨before, a, after, rfl, rfl, ha, hb⟩ := h
  induction before generalizing n
  case nil =>
    rw [List.nil_append, bindFrom, bind_of_isMalformed ha]
    rfl
  case cons a' before hi =>
    rw [List.forall_mem_cons] at hb
    obtain ⟨b, hb', _⟩ := bind_of_not_isMalformed (n + 1) hb.1
    rw [List.cons_append, bindFrom, hb', hi hb.2, List.length_cons, Nat.add_right_comm n 1,
      Nat.add_assoc n]
    rfl

-- Either all arguments are bound in their order, or the first malformed one is told.
theorem bindAll_of_isFirstMalformed (h : IsFirstMalformed arguments position) :
    bindAll arguments = .error (noDocument position) := by
  rw [bindAll, bindFrom_of_isFirstMalformed (n := 0) h, Nat.zero_add]

theorem bindAll_of_not_isFirstMalformed (h : ¬∃ position, IsFirstMalformed arguments position) :
    ∃ bound, bindAll arguments = .ok bound ∧ List.Forall₂ Binds arguments bound := by
  refine bindFrom_of_not_isMalformed fun a ha hm => h ?_
  unfold IsMalformed at hm
  split at hm
  case h_1 bytes => exact exists_isFirstMalformed_iff.mpr ⟨bytes, ha, hm⟩
  case h_2 => cases hm

namespace Session

variable {δ : Type} {db : Database δ} {call : Call} {s : Session δ} {t : Session (Recorded δ)}
  {now : Instant} {reason : Stop}

-- How a statement gets to the database.
inductive Route where
  | pooled
  | inTransaction

def Route.execute (db : Database δ) : Route → Executor (Session δ)
  | pooled        => executePooled db
  | inTransaction => executeInTransaction db

-- Does the route lead to the database at an instant?
def Route.IsFree (s : Session δ) (now : Instant) : Route → Prop
  | pooled        => s.poolClosed = false
  | inTransaction => s.transaction = .opened ∧ s.busyUntil ≤ now

variable {route : Route}

theorem execute_of_error (h : bindAll call.arguments = .error failure) :
    route.execute db call s = ({ answer := .error failure }, s) := by
  cases route
  all_goals simp only [Route.execute, executePooled, executeInTransaction, h]

theorem execute_of_stopped (h : bindAll call.arguments = .ok bound)
    (hs : call.scope.stopped? call.now = some reason) :
    route.execute db call s = ({ answer := .error (.interrupted reason) }, s) := by
  cases route
  case pooled => simp [Route.execute, executePooled, h, send, hs, reply]
  case inTransaction =>
    simp [Route.execute, executeInTransaction, h, Scope.race, hs, reply]

-- The statement is sent, or it is told why the route does not lead to the database.
theorem execute_eq_send_or (db : Database δ) (route : Route) (s : Session δ)
    (h : bindAll call.arguments = .ok bound) :
    (∃ now, route.execute db call s = send db call bound now s) ∨
      ∃ failure elapsed, route.execute db call s = ({ answer := .error failure, elapsed }, s) ∧
        ∀ position reason, failure ≠ .invalidArgument position reason := by
  cases route
  case pooled =>
    simp only [Route.execute, executePooled, h]
    split
    case isTrue =>
      refine .inr ⟨_, _, rfl, fun _ _ he => ?_⟩
      cases he
    case isFalse => exact .inl ⟨_, rfl⟩
  case inTransaction =>
    simp only [Route.execute, executeInTransaction, h]
    split
    case h_1 =>
      refine .inr ⟨_, _, rfl, fun _ _ he => ?_⟩
      cases he
    case h_2 =>
      split
      case isTrue => exact .inl ⟨_, rfl⟩
      case isFalse =>
        refine .inr ⟨_, _, rfl, fun _ _ he => ?_⟩
        cases he

theorem execute_of_isFree (h : bindAll call.arguments = .ok bound)
    (hf : route.IsFree s call.now) (hs : call.scope.stopped? call.now = none) :
    route.execute db call s = send db call bound call.now s := by
  cases route
  case pooled =>
    have hf : s.poolClosed = false := hf
    simp [Route.execute, executePooled, h, hf]
  case inTransaction =>
    obtain ⟨ho, hb⟩ := hf
    have hr : call.scope.race call.now call.now = .ok call.now :=
      Scope.race_of_not_hasStopped (Nat.le_refl _) (Scope.not_hasStopped_iff.mpr hs)
    simp [Route.execute, executeInTransaction, h, Nat.max_eq_left hb, hr, ho]

theorem send_ne_invalidArgument {reason : String} :
    (send db call bound now s).1.answer ≠ .error (.invalidArgument position reason) := by
  unfold send
  split
  case h_1 => simp [reply]
  case h_2 =>
    dsimp only
    split
    case h_1 =>
      cases hr : (db.execute call.statement bound now s.database).1.answer
      case ok => simp [reply, Except.mapError]
      case error e =>
        rcases e with ⟨_, _ | _⟩ | _ | _
        all_goals simp [reply, Except.mapError, DatabaseError.failure]
    case h_2 => simp [reply]

-- The statement is sent once, with what is bound, unless the scope has stopped.
theorem requests_send :
    (send db.recorded call bound now t).2.database.requests = t.database.requests ++
      if (call.scope.stopped? now).isNone then [.statement call.statement bound] else [] := by
  unfold send
  split
  case h_1 hs => simp [hs]
  case h_2 hs =>
    simp only [recorded_execute, recorded_abandon, hs]
    split
    all_goals rfl

-- Nothing else is told to be an invalid argument.
theorem isFirstMalformed_of_answer {reason : String}
    (h : (route.execute db call s).1.answer = .error (.invalidArgument position reason)) :
    IsFirstMalformed call.arguments position := by
  by_cases hm : ∃ position, IsFirstMalformed call.arguments position
  case pos =>
    obtain ⟨position', hm⟩ := hm
    rw [execute_of_error (bindAll_of_isFirstMalformed hm)] at h
    cases h
    exact hm
  case neg =>
    obtain ⟨bound, hb, _⟩ := bindAll_of_not_isFirstMalformed hm
    cases execute_eq_send_or db route s hb
    case inl he =>
      obtain ⟨now, he⟩ := he
      exact absurd (he ▸ h) send_ne_invalidArgument
    case inr he =>
      obtain ⟨failure, _, he, hn⟩ := he
      rw [he] at h
      exact absurd (Except.error.inj h) (hn position reason)

theorem exists_requests_execute (h : bindAll call.arguments = .ok bound) :
    ∃ sent, (route.execute db.recorded call t).2.database.requests = t.database.requests ++ sent ∧
      (sent = [] ∨ sent = [.statement call.statement bound]) := by
  cases execute_eq_send_or db.recorded route t h
  case inl he =>
    obtain ⟨now, he⟩ := he
    refine ⟨_, by rw [he]; exact requests_send, ?_⟩
    split
    case isTrue => exact .inr rfl
    case isFalse => exact .inl rfl
  case inr he =>
    obtain ⟨_, _, he, _⟩ := he
    exact ⟨[], by rw [he, List.append_nil], .inl rfl⟩

-- A call with malformed arguments is refused for the first one of them, and all else is sent.
theorem execute_refuses_malformed (db : Database δ) (route : Route) (call : Call) :
    -- A call is refused for its arguments if and only if some JSON among them is no document,
    (∀ s, (∃ position reason,
      (route.execute db call s).1.answer = .error (.invalidArgument position reason)) ↔
        ∃ bytes, .json (some bytes) ∈ call.arguments ∧ ¬HoldsDocument bytes) ∧
    -- and then for the first one.
    (∀ s position reason,
      (route.execute db call s).1.answer = .error (.invalidArgument position reason) →
        IsFirstMalformed call.arguments position) ∧
    -- Nothing is sent, and neither scope nor session counts.
    (∀ position, IsFirstMalformed call.arguments position → ∀ scope now s,
      route.execute db { call with scope, now } s =
        ({ answer := .error (noDocument position) }, s)) ∧
    -- Otherwise all arguments are bound in their order,
    ((¬∃ position, IsFirstMalformed call.arguments position) →
      ∃ bound, List.Forall₂ Binds call.arguments bound ∧
        -- nothing but the statement with these is ever sent,
        (∀ s, ∃ sent, (route.execute db.recorded call s).2.database.requests =
          s.database.requests ++ sent ∧ (sent = [] ∨ sent = [.statement call.statement bound])) ∧
        -- it is sent if nothing is in the way,
        (call.scope.stopped? call.now = none → ∀ s, route.IsFree s call.now →
          (route.execute db.recorded call s).2.database.requests =
            s.database.requests ++ [.statement call.statement bound])) ∧
    -- and it is not sent in a scope that has stopped.
    ((¬∃ position, IsFirstMalformed call.arguments position) →
      ∀ reason, call.scope.stopped? call.now = some reason → ∀ s,
        route.execute db call s = ({ answer := .error (.interrupted reason) }, s)) := by
  refine ⟨fun s => ?_, fun s position reason => isFirstMalformed_of_answer,
    fun position hm scope now s => ?_, fun hm => ?_, fun hm reason hs s => ?_⟩
  case refine_1 =>
    rw [← exists_isFirstMalformed_iff]
    constructor
    case mp => exact fun ⟨position, _, h⟩ => ⟨position, isFirstMalformed_of_answer h⟩
    case mpr =>
      rintro ⟨position, hm⟩
      exact ⟨position, _, by rw [execute_of_error (bindAll_of_isFirstMalformed hm), noDocument]⟩
  case refine_2 =>
    exact execute_of_error (bindAll_of_isFirstMalformed hm)
  case refine_3 =>
    obtain ⟨bound, hb, ha⟩ := bindAll_of_not_isFirstMalformed hm
    refine ⟨bound, ha, fun s => exists_requests_execute hb, fun hs s hf => ?_⟩
    rw [execute_of_isFree hb hf hs, requests_send, hs]
    rfl
  case refine_4 =>
    obtain ⟨bound, hb, _⟩ := bindAll_of_not_isFirstMalformed hm
    exact execute_of_stopped hb hs

-- The transaction is over and the call is cancelled, but what is told is the fourth argument.
theorem execute_refuses_malformed_fourth :
    let db : Database Unit :=
      { execute := fun _ _ _ _ => ({ answer := .ok 1 }, ())
        abandon := fun _ _ _ _ _ => ()
        start := fun _ => (.ok (), ())
        commit := fun _ => (.ok (), ())
        rollback := fun _ => (.ok (), ()) }
    let call : Call :=
      { scope := { switch := some ⟨some 0, true⟩ }
        now := 0
        statement := "INSERT"
        arguments := [.text "evt-1", .json none, .json (some "\x7b\x7d".toUTF8),
          .json (some "\x7b".toUTF8), .json (some "]".toUTF8)] }
    let s : Session Unit := { database := (), transaction := .finished }
    Route.inTransaction.execute db call s = ({ answer := .error (noDocument 4) }, s) := by
  intro db call s
  have hd : ∃ v, document? "\x7b\x7d".toUTF8 = some v := by
    rw [← Option.isSome_iff_exists]
    decide +kernel
  have hn : (document? "\x7b".toUTF8).isNone := by decide +kernel
  have hm : IsFirstMalformed call.arguments 4 := by
    refine ⟨[.text "evt-1", .json none, .json (some "\x7b\x7d".toUTF8)], _, _, rfl, rfl,
      fun h => ?_, ?_⟩
    case refine_1 =>
      obtain ⟨v, hv⟩ := exists_document?_iff_holdsDocument.mpr h
      rw [hv] at hn
      cases hn
    case refine_2 =>
      have hh : HoldsDocument "\x7b\x7d".toUTF8 := exists_document?_iff_holdsDocument.mp hd
      simp only [List.forall_mem_cons, IsMalformed, hh, not_true_eq_false, not_false_eq_true,
        List.not_mem_nil, IsEmpty.forall_iff, implies_true, and_self]
  exact (execute_refuses_malformed db .inTransaction call).2.2.1 4 hm call.scope call.now s

end Session
end Outbox.Postgres

import Outbox.Proofs.Publisher.Amendment
import Outbox.Proofs.Store.Memory
/-!
Publish calls as callers of an executor that others use as well. What a caller does depends on the
answers it gets, so its calls up to now are the calls of a run in which they were answered so.
-/

namespace Outbox.Publisher

open Executor (Call Reply)
open Store (Row)

variable {σ : Type} {c : Config} {ex : Executor σ} {s : Situation σ} {r : Run σ} {m : Message}
  {ms : List Message} {calls calls' : List (Call × Reply)}

-- The row that a call stores, if it succeeds.
def stored? (e : Call × Reply) : Option Row :=
  match e.2.answer with
  | .ok _    => some ⟨e.1.statement, e.1.arguments⟩
  | .error _ => none

theorem stored?_eq_none {e : Call × Reply} (h : e.2.isSuccess = false) : stored? e = none := by
  cases ha : e.2.answer
  case error => simp [stored?, ha]
  case ok => simp [Reply.isSuccess_of_ok ha] at h

theorem Insertion.stored_of_ok {k : Nat} (i : Insertion c ex m k s r) (h : r.result = .ok ()) :
    r.calls.filterMap stored? = [c.row m] := by
  induction i
  case written ha => simp [stored?, ha, Config.call, Config.row]
  case again ha _ _ _ _ hi =>
    simp only [Run.calls_prepend, List.cons_append, List.nil_append]
    rw [List.filterMap_cons_none (stored?_eq_none (Reply.isSuccess_of_error ha))]
    exact hi h
  all_goals cases h

theorem Insertion.stored_of_error {k : Nat} {failure : Failure} (i : Insertion c ex m k s r)
    (h : r.result = .error failure) : r.calls.filterMap stored? = [] :=
  List.filterMap_eq_nil_iff.mpr fun e he => stored?_eq_none <| i.isSuccess_eq_false h e he

-- Rows are stored for some first messages, and for all of them behind a success.
theorem Course.stored (h : Course c ex ms s r) :
    r.calls.filterMap stored? <+: ms.map c.row ∧
      (r.result = .ok () → r.calls.filterMap stored? = ms.map c.row) := by
  induction h
  case done => simp
  case failed i h => simp [i.stored_of_error h, h]
  case next i h _ hi => simpa [i.stored_of_ok h] using hi

theorem publish_stored :
    (publish c ex ms s).calls.filterMap stored? <+: ms.map c.row ∧
      ((publish c ex ms s).result = .ok () →
        (publish c ex ms s).calls.filterMap stored? = ms.map c.row) := by
  by_cases h : Refused ms
  case pos =>
    have ⟨_, _, hi⟩ := refused_iff.mp h
    simp [publish_of_firstInvalid hi]
  case neg =>
    have ⟨r, hc, hr, hcs, _⟩ := publish_course c ex s (not_refused_iff.mp h)
    rw [hr, hcs]
    exact hc.stored

-- A publish call that others are made beside.
structure Caller where
  config   : Config
  messages : List Message
  scope    : Scope
  start    : Instant

namespace Caller

variable {p : Caller}

-- What the call does if `view` is what it gets to see.
def run (p : Caller) (view : Executor σ) (store : σ) : Run σ :=
  publish p.config view p.messages ⟨store, p.scope, p.start⟩

-- These calls are made first, provided that they are answered as they are here.
def Makes (p : Caller) (calls : List (Call × Reply)) : Prop :=
  ∃ (σ : Type) (view : Executor σ) (store : σ), calls <+: (p.run view store).calls

-- These calls are all that is done, and then there is a result.
def Returns (p : Caller) (calls : List (Call × Reply)) (result : Except Failure Unit) : Prop :=
  ∃ (σ : Type) (view : Executor σ) (store : σ),
    (p.run view store).calls = calls ∧ (p.run view store).result = result

theorem Makes.nil : p.Makes [] :=
  ⟨Unit, fun _ _ => ({ answer := .ok 1 }, ()), (), List.nil_prefix⟩

theorem Makes.of_prefix (h : p.Makes calls') (hp : calls <+: calls') : p.Makes calls := by
  have ⟨σ, view, store, h⟩ := h
  exact ⟨σ, view, store, hp.trans h⟩

theorem Returns.makes {result : Except Failure Unit} (h : p.Returns calls result) :
    p.Makes calls := by
  obtain ⟨σ, view, store, rfl, _⟩ := h
  exact ⟨σ, view, store, List.prefix_refl _⟩

theorem Makes.stored (h : p.Makes calls) :
    calls.filterMap stored? <+: p.messages.map p.config.row := by
  have ⟨_, _, _, h⟩ := h
  exact (h.filterMap stored?).trans publish_stored.1

theorem Returns.stored (h : p.Returns calls (.ok ())) :
    calls.filterMap stored? = p.messages.map p.config.row := by
  obtain ⟨_, _, _, rfl, hr⟩ := h
  exact publish_stored.2 hr

-- Who has not returned makes a certain call next, and any reply to it can come.
theorem Makes.returns_or_next (h : p.Makes calls) :
    (∃ result, p.Returns calls result) ∨
    (∃ call, ∀ reply, p.Makes (calls ++ [(call, reply)])) := by
  obtain ⟨σ, view, store, rest, h⟩ := h
  cases rest
  case nil => exact .inl ⟨_, σ, view, store, by simpa using h.symm, rfl⟩
  case cons e rest =>
    have he : (p.run view store).calls[calls.length]? = some e := by simp [← h]
    refine .inr ⟨e.1, fun reply => ⟨Nat × σ, view.amend reply, (calls.length, store), ?_⟩⟩
    have hp : (p.run view store).calls.take _ ++ _ <+: _ := publish_amend reply he
    rwa [← h, List.take_left] at hp

end Caller

end Outbox.Publisher

import Mathlib.Data.List.SplitBy
import Outbox.Proofs.Publisher.Trace
/-!
The result of a publish call, told from the calls that it made, from their answers and from what was
seen of the scope.
-/

namespace Outbox

-- What is seen of a scope behind `n` failed attempts and before the next one, if the last of them
-- was answered at `now`: the scope is looked at while waiting, and again before the attempt.
def Retry.Policy.lookAfter (p : Retry.Policy) (scope : Scope) (now : Instant) : Nat → Option Stop
  | 0     => scope.stopped? now
  | n + 1 =>
    match Retry.wait scope now (p.backoffAfter (n + 1)) with
    | .error (reason, _) => some reason
    | .ok t              => scope.stopped? t

namespace Publisher

open Executor (Call Reply)

variable {σ : Type} {c : Config} {ex : Executor σ} {s : Situation σ} {r : Run σ}
  {m : Message} {ms : List Message} {calls calls' : List (Call × Reply)} {failure : Failure}
  {here : Scope × Instant}

-- The calls of a publish call, sorted by messages: a message is done with its first success.
def byMessage (calls : List (Call × Reply)) : List (List (Call × Reply)) :=
  calls.splitBy fun e _ => !e.2.isSuccess

def callsFor (calls : List (Call × Reply)) (j : Nat) : List (Call × Reply) :=
  (byMessage calls)[j]?.getD []

-- Some call for the message with the number `j` succeeded.
def Written (calls : List (Call × Reply)) (j : Nat) : Prop :=
  ∃ e ∈ callsFor calls j, e.2.isSuccess

theorem isChain_of_forall_dropLast (h : ∀ e ∈ calls.dropLast, e.2.isSuccess = false) :
    calls.IsChain fun e _ => !e.2.isSuccess := by
  induction calls
  case nil => exact .nil
  case cons e calls hi =>
    cases calls
    case nil => exact .singleton _
    case cons =>
      simp only [List.dropLast_cons_cons, List.forall_mem_cons] at h
      exact .cons_cons (by simp [h.1]) (hi h.2)

theorem byMessage_of_forall_dropLast (h : ∀ e ∈ calls.dropLast, e.2.isSuccess = false)
    (hn : calls ≠ []) : byMessage calls = [calls] :=
  List.splitBy_of_isChain hn <| isChain_of_forall_dropLast h

-- Behind a success the calls for the next message begin.
theorem byMessage_append (h : ∀ e ∈ calls.dropLast, e.2.isSuccess = false)
    (hs : ∃ e, calls.getLast? = some e ∧ e.2.isSuccess) :
    byMessage (calls ++ calls') = calls :: byMessage calls' := by
  have ⟨e, he, hs⟩ := hs
  have hn : calls ≠ [] := by
    intro hn
    simp [hn] at he
  calc
    byMessage (calls ++ calls') = byMessage calls ++ byMessage calls' :=
      List.splitBy_append (by simp [he, hs])
    _ = calls :: byMessage calls' := by simp [byMessage_of_forall_dropLast h hn]

theorem callsFor_of_lt {i : Nat} (h : i < (byMessage calls).length) :
    callsFor calls i = (byMessage calls)[i] := by
  simp [callsFor, h]

theorem lt_of_callsFor_ne_nil {j : Nat} (h : callsFor calls j ≠ []) :
    j < (byMessage calls).length := by
  by_contra hj
  simp [callsFor, List.getElem?_eq_none (Nat.le_of_not_lt hj)] at h

-- Only the calls for the last message that was reached can be without a success.
theorem written_of_lt {i : Nat} (h : i + 1 < (byMessage calls).length) : Written calls i := by
  have hc := List.isChain_getLast_head_splitBy (fun e _ => !e.2.isSuccess) calls
  have ⟨hl, _, hs⟩ := List.isChain_iff_getElem.mp hc i h
  refine ⟨_, ?_, by simpa using hs⟩
  rw [callsFor_of_lt (Nat.lt_of_succ_lt h)]
  exact List.getLast_mem hl

-- The calls for the last message that was reached end with the very last call.
theorem getLast?_callsFor {j : Nat} (h : (byMessage calls).length = j + 1) :
    (callsFor calls j).getLast? = calls.getLast? := by
  have hn : calls ≠ [] := by
    intro hn
    simp [hn, byMessage] at h
  have hb : byMessage calls ≠ [] := List.splitBy_ne_nil.mpr hn
  have hj : callsFor calls j = (byMessage calls).getLast hb := by
    rw [callsFor_of_lt (by omega), List.getLast_eq_getElem]
    congr
    omega
  have hl : (byMessage calls).getLast hb ≠ [] := List.ne_nil_of_mem_splitBy (List.getLast_mem hb)
  rw [hj, List.getLast?_eq_some_getLast hl, List.getLast?_eq_some_getLast hn]
  congr 1
  exact List.getLast_getLast_splitBy _ hn

theorem callsFor_of_unsuccessful (h : ∀ e ∈ calls, e.2.isSuccess = false) :
    callsFor calls 0 = calls := by
  by_cases hn : calls = []
  case pos => simp [hn, callsFor, byMessage]
  case neg =>
    have := byMessage_of_forall_dropLast (fun e he => h e (List.dropLast_subset _ he)) hn
    simp [callsFor, this]

section

variable (h : ∀ e ∈ calls.dropLast, e.2.isSuccess = false)
  (hs : ∃ e, calls.getLast? = some e ∧ e.2.isSuccess)

include h hs

theorem callsFor_append_zero : callsFor (calls ++ calls') 0 = calls := by
  simp [callsFor, byMessage_append h hs]

theorem callsFor_append_succ {j : Nat} :
    callsFor (calls ++ calls') (j + 1) = callsFor calls' j := by
  simp [callsFor, byMessage_append h hs]

theorem written_append_zero : Written (calls ++ calls') 0 := by
  have ⟨e, he, hs'⟩ := hs
  refine ⟨e, ?_, hs'⟩
  rw [callsFor_append_zero h hs]
  exact List.mem_of_getLast? he

theorem written_append_succ {j : Nat} : Written (calls ++ calls') (j + 1) ↔ Written calls' j := by
  simp [Written, callsFor_append_succ h hs]

end

-- The calls for messages are found again in the trace that they make.
theorem Trace.byMessage_flatten {runs : List (List (Call × Reply))} (t : Trace c ms runs) :
    byMessage runs.flatten = runs := by
  have tries {i : Nat} (h : i < runs.length) := t.tries i h (Nat.lt_of_lt_of_le h t.length_le)
  refine List.splitBy_flatten ?_ ?_ ?_
  · intro hn
    have ⟨_, h, hn⟩ := List.mem_iff_getElem.mp hn
    exact (tries h).ne_nil hn
  · intro calls hc
    have ⟨_, h, hc⟩ := List.mem_iff_getElem.mp hc
    refine isChain_of_forall_dropLast fun e he => ?_
    exact Reply.isSuccess_of_isRetryable <| (tries h).retryable e (hc ▸ he)
  · refine List.isChain_iff_getElem.mpr fun i h => ?_
    have ⟨e, he, hs⟩ := t.success i h
    refine ⟨(tries (Nat.lt_of_succ_lt h)).ne_nil, (tries h).ne_nil, ?_⟩
    simp [List.getLast_of_getLast?_eq_some he, hs]

-- The scope and the instant that calls leave behind, if the first of them is made in the scope and
-- at the instant `here`.
def standing (here : Scope × Instant) : List (Call × Reply) → Scope × Instant
  | []                    => here
  | (call, reply) :: rest => standing (call.scopeAfter reply, call.now + reply.elapsed) rest

theorem standing_append :
    standing here (calls ++ calls') = standing (standing here calls) calls' := by
  induction calls generalizing here
  case nil => rfl
  case cons hi => exact hi

theorem Attempt.standing_concat {s₁ s₂ : Situation σ} {reply : Reply}
    (a : Attempt c ex m s₁ reply s₂) :
    standing here (calls ++ [(c.call m s₁, reply)]) = (s₂.scope, s₂.now) := by
  rw [standing_append, a.scope, a.now]
  rfl

-- How the calls for a message end that is not written, where `here` is what they leave behind.
inductive Ending (c : Config) (m : Message) (calls : List (Call × Reply)) (here : Scope × Instant) :
    Failure → Prop
  | exhausted {e source} :
    (calls.length = c.policy.maxAttempts) → (∀ e ∈ calls, e.2.isRetryable) →
    (calls.getLast? = some e) → (e.2.answer = .error source) →
    Ending c m calls here
      (.retriesExhausted m.eventId c.maxRetries.toNat c.policy.maxAttempts source)
  | interrupted {e reason} :
    (e ∈ calls) → (e.2.answer = .error (.interrupted reason)) →
    Ending c m calls here (.interrupted m.eventId reason)
  | stopped {reason} :
    (∀ e ∈ calls, e.2.isRetryable) → (calls.length < c.policy.maxAttempts) →
    (c.policy.lookAfter here.1 here.2 calls.length = some reason) →
    Ending c m calls here (.interrupted m.eventId reason)

-- The calls before the situation `s` have failed, and attempts are left. What the scope shows now
-- is what is seen of it behind these calls.
structure Underway (c : Config) (here : Scope × Instant) (before : List (Call × Reply))
    (s : Situation σ) : Prop where
  retryable : ∀ e ∈ before, e.2.isRetryable
  length_lt : before.length < c.policy.maxAttempts
  look      : c.policy.lookAfter (standing here before).1 (standing here before).2 before.length =
    s.scope.stopped? s.now

theorem Underway.retryable_concat {before : List (Call × Reply)} {call : Call} {reply : Reply}
    {source : Executor.Failure} (u : Underway c here before s) (ha : reply.answer = .error source)
    (hf : source.isRetryable) : ∀ e ∈ before ++ [(call, reply)], e.2.isRetryable := by
  refine List.forall_mem_append.mpr ⟨u.retryable, ?_⟩
  simpa using Reply.isRetryable_of_error ha hf

theorem Insertion.ending_of_underway {k : Nat} {before : List (Call × Reply)}
    (i : Insertion c ex m k s r) (u : Underway c here before s) (hk : k = before.length + 1)
    (h : r.result = .error failure) :
    Ending c m (before ++ r.calls) (standing here (before ++ r.calls)) failure := by
  induction i generalizing before
  case stopped hs =>
    cases h
    simp only [Run.calls_ended, List.append_nil]
    exact .stopped u.retryable u.length_lt (u.look.trans hs)
  case written => cases h
  case interrupted ha =>
    cases h
    exact .interrupted (List.mem_append_right _ (List.mem_singleton_self _)) ha
  case exhausted s₁ _ reply _ _ ha hf hk' =>
    cases h
    subst hk'
    have hl : (before ++ [(c.call m s₁, reply)]).length = c.policy.maxAttempts := by simp [hk]
    exact .exhausted hl (u.retryable_concat ha hf) List.getLast?_concat ha
  case cut a ha hf hk' hw =>
    cases h
    subst hk
    refine .stopped (u.retryable_concat ha hf) (by simpa using hk') ?_
    simp [a.standing_concat, Retry.Policy.lookAfter, hw]
  case again s₁ s₂ reply _ t _ a ha hf hk' hw _ hi =>
    subst hk
    have u' : Underway c here (before ++ [(c.call m s₁, reply)]) { s₂ with now := t } := {
      retryable := u.retryable_concat ha hf
      length_lt := by simpa using hk'
      look      := by simp [a.standing_concat, Retry.Policy.lookAfter, hw]
    }
    simpa using hi u' (by simp) h

theorem Insertion.ending (i : Insertion c ex m 1 s r) (h : r.result = .error failure) :
    Ending c m r.calls (standing (s.scope, s.now) r.calls) failure := by
  have u : Underway c (s.scope, s.now) [] s := ⟨by simp, c.policy.maxAttempts_pos, rfl⟩
  exact i.ending_of_underway u rfl h

theorem Insertion.standing_calls {k : Nat} (i : Insertion c ex m k s r) (h : r.result = .ok ()) :
    standing here r.calls = (r.final.scope, r.final.now) := by
  induction i generalizing here
  case written a _ =>
    rw [← List.nil_append [_]]
    exact a.standing_concat
  case again hi => exact hi h
  all_goals cases h

theorem Insertion.isSuccess_of_mem_dropLast {k : Nat} (i : Insertion c ex m k s r) :
    ∀ e ∈ r.calls.dropLast, e.2.isSuccess = false :=
  fun e he => Reply.isSuccess_of_isRetryable <| i.isRetryable_of_mem_dropLast e he

-- The message with the number `j` is the first one that is not written.
structure FirstUnwritten (calls : List (Call × Reply)) (j : Nat) : Prop where
  written   : ∀ i < j, Written calls i
  unwritten : ¬Written calls j

theorem FirstUnwritten.unique {i j : Nat} (hi : FirstUnwritten calls i)
    (hj : FirstUnwritten calls j) : i = j := by
  refine Nat.le_antisymm ?_ ?_
  · exact Nat.le_of_not_lt fun h => hj.unwritten (hi.written j h)
  · exact Nat.le_of_not_lt fun h => hi.unwritten (hj.written i h)

-- The course that messages take is told by the calls: either all messages are written, or the
-- calls for the first one that is not written say why.
theorem Course.written_or_ending (h : Course c ex ms s r) :
    (r.result = .ok () ∧ ∀ j < ms.length, Written r.calls j) ∨
    (∃ j m failure, ms[j]? = some m ∧ r.result = .error failure ∧ FirstUnwritten r.calls j ∧
      (∀ e ∈ (callsFor r.calls j).dropLast, e.2.isRetryable) ∧
      Ending c m (callsFor r.calls j) (standing (s.scope, s.now) r.calls) failure) := by
  induction h
  case done => exact .inl ⟨rfl, by simp⟩
  case failed m _ _ r failure i h =>
    have hu := i.isSuccess_eq_false h
    have hc := callsFor_of_unsuccessful hu
    refine .inr ⟨0, m, failure, rfl, h, ?_, ?_, ?_⟩
    · exact { written := by simp, unwritten := by simpa [Written, hc] using hu }
    · exact hc.symm ▸ i.isRetryable_of_mem_dropLast
    · exact hc.symm ▸ i.ending h
  case next r r' i h _ hi =>
    have hd := i.isSuccess_of_mem_dropLast
    have hs := i.getLast?_isSuccess h
    cases hi
    case inl hi =>
      refine .inl ⟨hi.1, fun j hj => ?_⟩
      cases j
      case zero => exact written_append_zero hd hs
      case succ j => exact written_append_succ hd hs |>.mpr <| hi.2 j (Nat.lt_of_succ_lt_succ hj)
    case inr hi =>
      have ⟨j, m, failure, hm, hr, hu, hy, he⟩ := hi
      refine .inr ⟨j + 1, m, failure, hm, hr, ⟨fun l hl => ?_, ?_⟩, ?_, ?_⟩
      · cases l
        case zero => exact written_append_zero hd hs
        case succ l =>
          have hl := Nat.lt_of_succ_lt_succ hl
          exact written_append_succ hd hs |>.mpr <| hu.written l hl
      · exact mt (written_append_succ hd hs).mp hu.unwritten
      · rwa [Run.calls_prepend, callsFor_append_succ hd hs]
      · rwa [Run.calls_prepend, callsFor_append_succ hd hs, standing_append, i.standing_calls h]

-- A call that may not be repeated ends the calls for a message.
theorem getLast?_of_not_isRetryable {e : Call × Reply} (h : ∀ e ∈ calls.dropLast, e.2.isRetryable)
    (he : e ∈ calls) (hr : e.2.isRetryable = false) : calls.getLast? = some e := by
  have hn := List.ne_nil_of_mem he
  rw [← List.dropLast_concat_getLast hn, List.mem_append, List.mem_singleton] at he
  cases he
  case inl he => exact absurd (h e he) (by simp [hr])
  case inr he => rw [he, List.getLast?_eq_some_getLast hn]

theorem getLast?_of_interrupted {e : Call × Reply} {reason : Stop}
    (h : ∀ e ∈ calls.dropLast, e.2.isRetryable) (he : e ∈ calls)
    (ha : e.2.answer = .error (.interrupted reason)) : calls.getLast? = some e :=
  getLast?_of_not_isRetryable h he (Reply.isRetryable_of_interrupted ha)

theorem not_forall_isRetryable {e : Call × Reply} {reason : Stop} (he : e ∈ calls)
    (ha : e.2.answer = .error (.interrupted reason)) : ¬∀ e ∈ calls, e.2.isRetryable :=
  fun h => absurd (h e he) (by simp [Reply.isRetryable_of_interrupted ha])

theorem Ending.deterministic {f₁ f₂ : Failure} (h : ∀ e ∈ calls.dropLast, e.2.isRetryable) :
    Ending c m calls here f₁ → Ending c m calls here f₂ → f₁ = f₂
  | exhausted _ _ hl₁ ha₁, exhausted _ _ hl₂ ha₂ => by
    cases hl₁.symm.trans hl₂
    cases ha₁.symm.trans ha₂
    rfl
  | interrupted he₁ ha₁, interrupted he₂ ha₂ => by
    cases (getLast?_of_interrupted h he₁ ha₁).symm.trans (getLast?_of_interrupted h he₂ ha₂)
    cases ha₁.symm.trans ha₂
    rfl
  | stopped _ _ hl₁, stopped _ _ hl₂ => by
    cases hl₁.symm.trans hl₂
    rfl
  | exhausted hl .., stopped _ hl' _ | stopped _ hl' _, exhausted hl .. =>
    absurd hl (Nat.ne_of_lt hl')
  | interrupted he ha, exhausted _ hr .. | exhausted _ hr .., interrupted he ha
  | interrupted he ha, stopped hr .. | stopped hr .., interrupted he ha =>
    absurd hr (not_forall_isRetryable he ha)

theorem Course.result_eq_ok_iff (h : Course c ex ms s r) :
    r.result = .ok () ↔ ∀ j < ms.length, Written r.calls j := by
  cases h.written_or_ending
  case inl h => exact iff_of_true h.1 h.2
  case inr h =>
    have ⟨j, _, _, hm, hr, hu, _⟩ := h
    have hj := (List.getElem?_eq_some_iff.mp hm).1
    exact iff_of_false (by simp [hr]) fun hw => hu.unwritten (hw j hj)

theorem Course.result_eq_error_iff (h : Course c ex ms s r) :
    r.result = .error failure ↔ ∃ j m, ms[j]? = some m ∧ FirstUnwritten r.calls j ∧
      Ending c m (callsFor r.calls j) (standing (s.scope, s.now) r.calls) failure := by
  cases h.written_or_ending
  case inl h =>
    refine iff_of_false (by simp [h.1]) fun ⟨j, _, hm, hu, _⟩ => ?_
    exact hu.unwritten <| h.2 j (List.getElem?_eq_some_iff.mp hm).1
  case inr h =>
    have ⟨j, m, failure', hm, hr, hu, hy, he⟩ := h
    constructor
    case mp =>
      intro hr'
      cases hr.symm.trans hr'
      exact ⟨j, m, hm, hu, he⟩
    case mpr =>
      intro ⟨j', m', hm', hu', he'⟩
      cases hu.unique hu'
      cases hm.symm.trans hm'
      exact he.deterministic hy he' ▸ hr

-- The message with the number `j` is the last one that is reached, and all attempts for it are
-- used up; `source` is the answer to the very last call.
structure UsedUp (c : Config) (calls : List (Call × Reply)) (j : Nat) (source : Executor.Failure) :
    Prop where
  last      : (byMessage calls).length = j + 1
  length_eq : (callsFor calls j).length = c.policy.maxAttempts
  retryable : ∀ e ∈ callsFor calls j, e.2.isRetryable
  answer    : ∃ e, calls.getLast? = some e ∧ e.2.answer = .error source

theorem UsedUp.firstUnwritten {j : Nat} {source : Executor.Failure} (u : UsedUp c calls j source) :
    FirstUnwritten calls j where
  written i hi := written_of_lt <| u.last ▸ Nat.succ_lt_succ hi
  unwritten := by
    intro ⟨e, he, hs⟩
    simp [Reply.isSuccess_of_isRetryable (u.retryable e he)] at hs

-- Either the executor says for which `reason` it was interrupted, or the scope is seen stopped
-- for that `reason` before an attempt or while waiting; `here` is what the calls leave behind.
def Interrupts (c : Config) (here : Scope × Instant) (calls : List (Call × Reply))
    (reason : Stop) : Prop :=
  (∃ e ∈ calls, e.2.answer = .error (.interrupted reason)) ∨
  ((∀ e ∈ calls, e.2.isRetryable) ∧ calls.length < c.policy.maxAttempts ∧
    c.policy.lookAfter here.1 here.2 calls.length = some reason)

theorem Ending.interrupted_iff {id : String} {reason : Stop} :
    Ending c m calls here (.interrupted id reason) ↔
      Interrupts c here calls reason ∧ id = m.eventId := by
  constructor
  case mp =>
    intro h
    cases h
    case interrupted he ha => exact ⟨.inl ⟨_, he, ha⟩, rfl⟩
    case stopped hr hl hs => exact ⟨.inr ⟨hr, hl, hs⟩, rfl⟩
  case mpr =>
    rintro ⟨⟨_, he, ha⟩ | ⟨hr, hl, hs⟩, rfl⟩
    · exact .interrupted he ha
    · exact .stopped hr hl hs

theorem FirstUnwritten.last {j : Nat} (hu : FirstUnwritten calls j) (h : callsFor calls j ≠ []) :
    (byMessage calls).length = j + 1 := by
  refine Nat.le_antisymm ?_ (lt_of_callsFor_ne_nil h)
  exact Nat.le_of_not_lt fun hj => hu.unwritten (written_of_lt hj)

theorem Ending.retriesExhausted_iff {id : String} {retries attempts j : Nat}
    {source : Executor.Failure} :
    (FirstUnwritten calls j ∧
      Ending c m (callsFor calls j) here (.retriesExhausted id retries attempts source)) ↔
    (UsedUp c calls j source ∧ id = m.eventId ∧ retries = c.maxRetries.toNat ∧
      attempts = c.policy.maxAttempts) := by
  constructor
  case mp =>
    intro ⟨hu, h⟩
    cases h
    case exhausted e hl hr he ha =>
      have hn : callsFor calls j ≠ [] := by
        intro hn
        simp [hn] at he
      have hj := hu.last hn
      exact ⟨⟨hj, hl, hr, e, getLast?_callsFor hj ▸ he, ha⟩, rfl, rfl, rfl⟩
  case mpr =>
    rintro ⟨hu, rfl, rfl, rfl⟩
    have ⟨_, he, ha⟩ := hu.answer
    refine ⟨hu.firstUnwritten, .exhausted hu.length_eq hu.retryable ?_ ha⟩
    rw [getLast?_callsFor hu.last, he]

-- The four ways in which a publish call ends, each with what has to be so for it.
def Refused (ms : List Message) : Prop :=
  ∃ m ∈ ms, m.validate ≠ .ok ()

def AllWritten (ms : List Message) (calls : List (Call × Reply)) : Prop :=
  ∀ j < ms.length, Written calls j

def GivenUp (c : Config) (ms : List Message) (calls : List (Call × Reply)) : Prop :=
  ∃ j < ms.length, ∃ source, UsedUp c calls j source

def Interrupted (c : Config) (here : Scope × Instant) (ms : List Message)
    (calls : List (Call × Reply)) : Prop :=
  ¬Refused ms ∧ ∃ j < ms.length, ∃ reason, FirstUnwritten calls j ∧
    Interrupts c (standing here calls) (callsFor calls j) reason

theorem not_refused_iff : ¬Refused ms ↔ ∀ m ∈ ms, m.validate = .ok () := by
  simp [Refused]

theorem refused_iff : Refused ms ↔ ∃ index defects, FirstInvalid ms index defects := by
  constructor
  case mp =>
    intro h
    exact exists_firstInvalid_or_forall_valid ms |>.resolve_right (not_refused_iff.not_right.mp h)
  case mpr =>
    intro ⟨_, _, h, hd, _⟩
    exact ⟨_, List.getElem_mem h, by simp [hd]⟩

theorem calls_of_refused (h : Refused ms) : (publish c ex ms s).calls = [] := by
  have ⟨_, _, h⟩ := refused_iff.mp h
  simp [publish_of_firstInvalid h]

theorem publish_invalidMessage_iff {index : Nat} {defects : Message.Defects} :
    (publish c ex ms s).result = .error (.invalidMessage index defects) ↔
      FirstInvalid ms index defects := by
  constructor
  case mp =>
    intro hr
    cases exists_firstInvalid_or_forall_valid ms
    case inl h =>
      have ⟨_, _, h⟩ := h
      simp only [publish_of_firstInvalid h, Run.result_ended] at hr
      cases hr
      exact h
    case inr h =>
      have ⟨_, hc, hr', _⟩ := publish_course c ex s h
      have ⟨_, _, _, _, he⟩ := hc.result_eq_error_iff.mp (hr'.symm.trans hr)
      cases he
  case mpr =>
    intro h
    simp [publish_of_firstInvalid h]

theorem publish_ok_iff :
    (publish c ex ms s).result = .ok () ↔ AllWritten ms (publish c ex ms s).calls := by
  by_cases h : Refused ms
  case pos =>
    have ⟨i, _, hi⟩ := refused_iff.mp h
    refine iff_of_false (by simp [publish_of_firstInvalid hi]) fun hw => ?_
    have ⟨e, he, _⟩ := hw i hi.1
    simp [calls_of_refused h, callsFor, byMessage] at he
  case neg =>
    have ⟨_, hc, hr, hcs, _⟩ := publish_course c ex s (not_refused_iff.mp h)
    rw [hr, hcs]
    exact hc.result_eq_ok_iff

theorem publish_retriesExhausted_iff {id : String} {retries attempts : Nat}
    {source : Executor.Failure} :
    (publish c ex ms s).result = .error (.retriesExhausted id retries attempts source) ↔
      ∃ j m, ms[j]? = some m ∧ UsedUp c (publish c ex ms s).calls j source ∧ id = m.eventId ∧
        retries = c.maxRetries.toNat ∧ attempts = c.policy.maxAttempts := by
  by_cases h : Refused ms
  case pos =>
    have ⟨_, _, hi⟩ := refused_iff.mp h
    refine iff_of_false (by simp [publish_of_firstInvalid hi]) fun ⟨_, _, _, hu, _⟩ => ?_
    simpa [calls_of_refused h, byMessage] using hu.last
  case neg =>
    have ⟨_, hc, hr, hcs, _⟩ := publish_course c ex s (not_refused_iff.mp h)
    simp only [hr, hcs, hc.result_eq_error_iff, Ending.retriesExhausted_iff]

theorem publish_interrupted_iff {id : String} {reason : Stop} (h : ¬Refused ms) :
    (publish c ex ms s).result = .error (.interrupted id reason) ↔
      ∃ j m, ms[j]? = some m ∧ FirstUnwritten (publish c ex ms s).calls j ∧
        Interrupts c (standing (s.scope, s.now) (publish c ex ms s).calls)
          (callsFor (publish c ex ms s).calls j) reason ∧ id = m.eventId := by
  have ⟨_, hc, hr, hcs, _⟩ := publish_course c ex s (not_refused_iff.mp h)
  simp only [hr, hcs, hc.result_eq_error_iff, Ending.interrupted_iff]

theorem refused_iff_result : Refused ms ↔
    ∃ index defects, (publish c ex ms s).result = .error (.invalidMessage index defects) := by
  simp only [refused_iff, publish_invalidMessage_iff]

theorem givenUp_iff_result : GivenUp c ms (publish c ex ms s).calls ↔
    ∃ id retries attempts source,
      (publish c ex ms s).result = .error (.retriesExhausted id retries attempts source) := by
  simp only [publish_retriesExhausted_iff]
  constructor
  case mp =>
    intro ⟨j, hj, source, hu⟩
    exact ⟨_, _, _, source, j, _, List.getElem?_eq_getElem hj, hu, rfl, rfl, rfl⟩
  case mpr =>
    intro ⟨_, _, _, source, j, _, hm, hu, _⟩
    exact ⟨j, (List.getElem?_eq_some_iff.mp hm).1, source, hu⟩

theorem interrupted_iff_result : Interrupted c (s.scope, s.now) ms (publish c ex ms s).calls ↔
    ∃ id reason, (publish c ex ms s).result = .error (.interrupted id reason) := by
  by_cases h : Refused ms
  case pos =>
    have ⟨_, _, hi⟩ := refused_iff.mp h
    exact iff_of_false (fun hr => hr.1 h) (by simp [publish_of_firstInvalid hi])
  case neg =>
    simp only [publish_interrupted_iff h]
    constructor
    case mp =>
      intro ⟨_, j, hj, reason, hu, hr⟩
      exact ⟨_, reason, j, _, List.getElem?_eq_getElem hj, hu, hr, rfl⟩
    case mpr =>
      intro ⟨_, reason, j, _, hm, hu, hr, _⟩
      exact ⟨h, j, (List.getElem?_eq_some_iff.mp hm).1, reason, hu, hr⟩

-- The result of a publish call tells exactly what happened. There are four cases, of which always
-- one holds and only one.
theorem publish_result_cases (c : Config) (ex : Executor σ) (ms : List Message) (s : Situation σ) :
    let r := publish c ex ms s
    let here := (s.scope, s.now)
    -- Sorted by messages, the calls are those for the messages in order.
    Trace c ms (byMessage r.calls) ∧
    -- A message is not complete: the first such message is told, with all that it lacks.
    (Refused ms ↔ ∃ index defects, r.result = .error (.invalidMessage index defects)) ∧
    (∀ index defects, r.result = .error (.invalidMessage index defects) ↔
      FirstInvalid ms index defects) ∧
    (∀ index defects, FirstInvalid ms index defects →
      ∃ m, ms[index]? = some m ∧ defects.violations = m.violations) ∧
    (Refused ms → r.calls = []) ∧
    -- All messages are written.
    (r.result = .ok () ↔ AllWritten ms r.calls) ∧
    (ms = [] → r.result = .ok () ∧ r.calls = []) ∧
    -- The last message that is reached has used up its attempts.
    (∀ id retries attempts source,
      r.result = .error (.retriesExhausted id retries attempts source) ↔
        ∃ j m, ms[j]? = some m ∧ UsedUp c r.calls j source ∧ id = m.eventId ∧
          retries = c.maxRetries.toNat ∧ attempts = c.policy.maxAttempts) ∧
    -- The first message that is not written was interrupted.
    (¬Refused ms → ∀ id reason, r.result = .error (.interrupted id reason) ↔
      ∃ j m, ms[j]? = some m ∧ FirstUnwritten r.calls j ∧
        Interrupts c (standing here r.calls) (callsFor r.calls j) reason ∧ id = m.eventId) ∧
    -- One of these cases holds, and no two of them do.
    (Refused ms ∨ AllWritten ms r.calls ∨ GivenUp c ms r.calls ∨ Interrupted c here ms r.calls) ∧
    [Refused ms, AllWritten ms r.calls, GivenUp c ms r.calls,
      Interrupted c here ms r.calls].Pairwise fun p q => ¬(p ∧ q) := by
  intro r here
  have hr : Refused ms ↔ ∃ index defects, r.result = .error (.invalidMessage index defects) :=
    refused_iff_result
  have ht : Trace c ms (byMessage r.calls) := by
    have ⟨runs, hf, t, _⟩ := publish_trace c ex ms s
    rwa [hf, t.byMessage_flatten]
  refine ⟨ht, hr, fun _ _ => publish_invalidMessage_iff, fun _ _ h => h.violations_eq,
    calls_of_refused, publish_ok_iff, ?_,
    fun _ _ _ _ => publish_retriesExhausted_iff, fun h _ _ => publish_interrupted_iff h, ?_⟩
  case refine_1 =>
    rintro rfl
    exact ⟨rfl, rfl⟩
  case refine_2 =>
    rw [hr, ← publish_ok_iff, givenUp_iff_result, interrupted_iff_result]
    cases r.result
    case ok => simp
    case error failure => cases failure <;> simp

end Publisher
end Outbox

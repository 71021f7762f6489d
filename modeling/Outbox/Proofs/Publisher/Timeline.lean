import Outbox.Proofs.Publisher.Outcome
import Outbox.Proofs.Waiting
/-!
When the calls of a publish call are made, how long is waited between them, and how both end when
the scope stops.
-/

namespace Outbox

open Executor (Call Reply)

namespace Scope

variable {s : Scope} {now t : Instant} {call : Call} {reply : Reply}

-- The scope that calls leave behind, if the first of them is made in the scope `s`: its switch may
-- have been turned on in the course of a call.
def behind (s : Scope) (calls : List (Call × Reply)) : Scope :=
  calls.foldl (fun s e => { e.1 with scope := s }.scopeAfter e.2) s

theorem cancelledFrom_cancel (s : Scope) (now : Instant) :
    (s.cancel now).cancelledFrom = s.cancelledFrom ∨ (s.cancel now).cancelledFrom = some now := by
  cases h : s.switch
  case none => simp [cancelledFrom, cancel, h]
  case some switch => cases hh : switch.held <;> simp [cancelledFrom, cancel, Switch.turn, h, hh]

theorem HasStopped.of_cancel (h : (s.cancel now).HasStopped t) : s.HasStopped t ∨ now ≤ t := by
  simp only [hasStopped_iff, isCancelled_iff, isExpired_iff] at h ⊢
  cases h
  case inl h =>
    have ⟨c, hc, ht⟩ := h
    cases cancelledFrom_cancel s now
    case inl hs => exact .inl <| .inl ⟨c, hs ▸ hc, ht⟩
    case inr hs =>
      cases hs.symm.trans hc
      exact .inr ht
  case inr h => exact .inl <| .inr h

-- If the scope that a call leaves behind stops, it did so before, or not before the call.
theorem HasStopped.of_scopeAfter (h : (call.scopeAfter reply).HasStopped t) :
    call.scope.HasStopped t ∨ call.now ≤ t := by
  unfold Call.scopeAfter at h
  split at h
  case isTrue => exact h.of_cancel
  case isFalse => exact .inl h

end Scope

namespace Publisher

-- Calls from the instant `t` to the instant `t'`, and what is waited in between. The scope is
-- handed on from call to call; `scope'` is what becomes of it.
inductive Timeline : Scope → Instant → List (Call × Reply) → Scope → Instant → Prop
  | nil {scope t} : Timeline scope t [] scope t
  | cons {call : Call} {reply calls t scope' t'} :
    (¬call.scope.HasStopped call.now) →
    ((call.scopeAfter reply).Rests (call.now + reply.elapsed) t) →
    (Timeline (call.scopeAfter reply) t calls scope' t') →
    Timeline call.scope call.now ((call, reply) :: calls) scope' t'

variable {σ : Type} {c : Config} {ex : Executor σ} {s : Situation σ} {r : Run σ} {m : Message}
  {ms : List Message} {calls calls' : List (Call × Reply)} {scope scope' scope'' : Scope}
  {t t' t'' u : Instant}

namespace Timeline

theorem append (l : Timeline scope t calls scope' t') (l' : Timeline scope' t' calls' scope'' t'') :
    Timeline scope t (calls ++ calls') scope'' t'' := by
  induction l
  case nil => exact l'
  case cons hn hr _ hi => exact .cons hn hr (hi l')

theorem le (l : Timeline scope t calls scope' t') : t ≤ t' := by
  induction l
  case nil => exact Nat.le_refl _
  case cons hr _ hi => exact Nat.le_trans (Nat.le_add_right ..) (Nat.le_trans hr.le hi)

theorem eq_behind (l : Timeline scope t calls scope' t') : scope' = scope.behind calls := by
  induction l
  case nil => rfl
  case cons hi => exact hi

-- There are no calls in a scope that has stopped.
theorem of_hasStopped (l : Timeline scope t calls scope' t') (h : scope.HasStopped t) :
    calls = [] ∧ t' = t := by
  cases l
  case nil => exact ⟨rfl, rfl⟩
  case cons hn _ _ => exact absurd h hn

theorem hasStopped_or_le (l : Timeline scope t calls scope' t') (h : scope'.HasStopped u) :
    scope.HasStopped u ∨ t ≤ u := by
  induction l
  case nil => exact .inl h
  case cons hr _ hi =>
    cases hi h
    case inl hs => exact hs.of_scopeAfter
    case inr hle =>
      have := Nat.le_trans hr.le hle
      exact .inr (Nat.le_trans (Nat.le_add_right ..) this)

theorem now_le (l : Timeline scope t calls scope' t') (h : scope'.HasStopped u) :
    ∀ e ∈ calls, e.1.now ≤ u := by
  induction l
  case nil => simp
  case cons call _ _ _ _ _ hn hr l hi =>
    refine List.forall_mem_cons.mpr ⟨?_, hi h⟩
    cases (cons hn hr l).hasStopped_or_le h
    case inl hs => exact Nat.le_of_not_le fun hle => hn (hs.mono hle)
    case inr hle => exact hle

-- If calls take no time, all that is done ends with the scope.
theorem le_wholeMilli (l : Timeline scope t calls scope' t') (h : ∀ e ∈ calls, e.2.elapsed = 0)
    (htu : t ≤ u) (hs : scope'.HasStopped u) : t' ≤ u.wholeMilli := by
  induction l
  case nil => exact Nat.le_trans htu u.le_wholeMilli
  case cons call reply calls t _ _ hn hr l hi =>
    have h₀ : reply.elapsed = 0 := h (call, reply) (.head _)
    by_cases hle : t ≤ u
    case pos => exact hi (fun e he => h e (.tail _ he)) hle hs
    case neg =>
      -- The scope stops while it is waited, and there is no further call.
      have hs' := (l.hasStopped_or_le hs).resolve_right hle
      have ht : t ≤ u.wholeMilli := hr.prompt u (by simpa [h₀] using htu) hs'
      have ⟨_, ht'⟩ := l.of_hasStopped (hs'.mono (Nat.le_of_not_le hle))
      exact ht' ▸ ht

-- Each call is made in the scope that the calls before it leave behind.
theorem scope_eq {i : Nat} {e : Call × Reply} (l : Timeline scope t calls scope' t')
    (h : calls[i]? = some e) : e.1.scope = scope.behind (calls.take i) := by
  induction l generalizing i
  case nil => simp at h
  case cons hi =>
    cases i
    case zero =>
      cases h
      rfl
    case succ i => exact hi h

theorem not_hasStopped (l : Timeline scope t calls scope' t') :
    ∀ e ∈ calls, ¬e.1.scope.HasStopped e.1.now := by
  induction l
  case nil => simp
  case cons hn _ _ hi => exact List.forall_mem_cons.mpr ⟨hn, hi⟩

end Timeline

-- What lies between two calls, or behind the last one.
structure Pause where
  scope  : Scope
  start  : Instant
  finish : Instant
  deriving DecidableEq

-- The pauses behind each of some calls, if all is over at the instant `last`.
def pauses (last : Instant) : List (Call × Reply) → List Pause
  | []                     => []
  | (call, reply) :: calls =>
    let next := (calls.head?.map (·.1.now)).getD last
    ⟨call.scopeAfter reply, call.now + reply.elapsed, next⟩ :: pauses last calls

def Run.pauses (r : Run σ) : List Pause :=
  Publisher.pauses r.final.now r.calls

namespace Timeline

theorem head_eq (l : Timeline scope t calls scope' t') :
    (calls.head?.map (·.1.now)).getD t' = t := by
  cases l <;> rfl

theorem pause {i : Nat} {p : Pause} (l : Timeline scope t calls scope' t')
    (h : (pauses t' calls)[i]? = some p) :
    p.scope = scope.behind (calls.take (i + 1)) ∧ p.scope.Rests p.start p.finish := by
  induction l generalizing i
  case nil => simp [pauses] at h
  case cons hr l hi =>
    cases i
    case zero =>
      cases h
      exact ⟨by simp [Scope.behind], l.head_eq ▸ hr⟩
    case succ i => exact hi h

end Timeline

theorem Attempt.timeline {s₁ s₂ : Situation σ} {reply : Reply} (a : Attempt c ex m s₁ reply s₂)
    (hr : s₂.scope.Rests s₂.now t) (l : Timeline s₂.scope t calls scope' t') :
    Timeline s₁.scope s₁.now ((c.call m s₁, reply) :: calls) scope' t' := by
  refine .cons (Scope.not_hasStopped_iff.mpr a.live) ?_ (a.scope ▸ l)
  exact a.scope ▸ a.now ▸ hr

theorem Insertion.timeline {k : Nat} (i : Insertion c ex m k s r) :
    Timeline s.scope s.now r.calls r.final.scope r.final.now := by
  induction i
  case stopped => exact .nil
  case written a _ => exact a.timeline (.refl _) .nil
  case interrupted a _ => exact a.timeline (.refl _) .nil
  case exhausted a _ _ _ => exact a.timeline (.refl _) .nil
  case cut a _ _ _ hw =>
    have ⟨_, _, hr⟩ := Retry.wait_eq_error hw
    exact a.timeline hr .nil
  case again a _ _ _ hw _ hi =>
    have ⟨_, _, hr⟩ := Retry.wait_eq_ok hw
    exact a.timeline hr hi

theorem Course.timeline (h : Course c ex ms s r) :
    Timeline s.scope s.now r.calls r.final.scope r.final.now := by
  induction h
  case done => exact .nil
  case failed i _ => exact i.timeline
  case next i _ _ hi => exact i.timeline.append hi

theorem publish_timeline (c : Config) (ex : Executor σ) (ms : List Message) (s : Situation σ) :
    let r := publish c ex ms s
    Timeline s.scope s.now r.calls r.final.scope r.final.now := by
  cases exists_firstInvalid_or_forall_valid ms
  case inl h =>
    have ⟨_, _, h⟩ := h
    rw [publish_of_firstInvalid h]
    exact .nil
  case inr h =>
    have ⟨r, hc, _, hcs, hf⟩ := publish_course c ex s h
    simp only [hcs, hf]
    exact hc.timeline

-- A run ends while it is waited behind the call `e` for the message `m`, since the scope stops.
structure CutShort (m : Message) (e : Call × Reply) (r : Run σ) : Prop where
  last        : r.calls.getLast? = some e
  scope       : r.final.scope = e.1.scopeAfter e.2
  rests       : r.final.scope.Rests (e.1.now + e.2.elapsed) r.final.now
  interrupted : ∃ reason, r.final.scope.stopped? r.final.now = some reason ∧
    r.result = .error (.interrupted m.eventId reason)

theorem CutShort.prepend {e : Call × Reply} {notices : List Notice} (h : CutShort m e r) :
    CutShort m e (r.prepend calls notices) where
  last        := by simp [h.last]
  scope       := h.scope
  rests       := h.rests
  interrupted := h.interrupted

-- The scope stops before the wait behind the call number `n` would be over.
theorem Insertion.cutShort {k n : Nat} {e : Call × Reply} (i : Insertion c ex m k s r)
    (he : r.calls[n]? = some e) (hf : e.2.isRetryable) (hk : n + k < c.policy.maxAttempts)
    (hs : (e.1.scopeAfter e.2).HasStopped
      (Retry.waitEnd (e.1.now + e.2.elapsed) (c.policy.backoffAfter (n + k)))) :
    CutShort m e r := by
  induction i generalizing n
  case stopped => simp at he
  case written ha =>
    obtain rfl := List.mem_singleton.mp (List.mem_of_getElem? he)
    simp [Reply.isRetryable, ha] at hf
  case interrupted ha =>
    obtain rfl := List.mem_singleton.mp (List.mem_of_getElem? he)
    simp [Reply.isRetryable_of_interrupted ha] at hf
  case exhausted hk' => omega
  case cut a ha _ hk' hw =>
    obtain rfl := List.mem_singleton.mp (List.mem_of_getElem? he)
    obtain ⟨_, hs', hr⟩ := Retry.wait_eq_error hw
    exact ⟨rfl, a.scope, a.now ▸ hr, _, hs', rfl⟩
  case again k _ _ _ _ _ _ a ha _ hk' hw _ hi =>
    cases n
    case zero =>
      cases he
      obtain ⟨ht, hn, _⟩ := Retry.wait_eq_ok hw
      rw [ht, a.scope, a.now, ← Nat.zero_add k] at hn
      exact absurd hs hn
    case succ n =>
      rw [Nat.succ_add_eq_add_succ] at hk hs
      exact (hi he hk hs).prepend

theorem callsFor_succ_of_unsuccessful {j : Nat} (h : ∀ e ∈ calls, e.2.isSuccess = false) :
    callsFor calls (j + 1) = [] := by
  by_cases hn : calls = []
  case pos => simp [hn, callsFor, byMessage]
  case neg =>
    have := byMessage_of_forall_dropLast (fun e he => h e (List.dropLast_subset _ he)) hn
    simp [callsFor, this]

theorem Course.cutShort {j k : Nat} {e : Call × Reply} (h : Course c ex ms s r)
    (he : (callsFor r.calls j)[k]? = some e) (hf : e.2.isRetryable)
    (hk : k + 1 < c.policy.maxAttempts)
    (hs : (e.1.scopeAfter e.2).HasStopped
      (Retry.waitEnd (e.1.now + e.2.elapsed) (c.policy.backoffAfter (k + 1)))) :
    ∃ m, ms[j]? = some m ∧ CutShort m e r := by
  induction h generalizing j
  case done => simp [callsFor, byMessage] at he
  case failed m _ _ _ _ i hr =>
    have hu := i.isSuccess_eq_false hr
    cases j
    case zero =>
      rw [callsFor_of_unsuccessful hu] at he
      exact ⟨m, rfl, i.cutShort he hf hk hs⟩
    case succ j => simp [callsFor_succ_of_unsuccessful hu] at he
  case next i hr _ hi =>
    have hd := i.isSuccess_of_mem_dropLast
    have hl := i.getLast?_isSuccess hr
    cases j
    case zero =>
      rw [Run.calls_prepend, callsFor_append_zero hd hl] at he
      obtain ⟨_, _, hr'⟩ := (i.cutShort he hf hk hs).interrupted
      cases hr.symm.trans hr'
    case succ j =>
      rw [Run.calls_prepend, callsFor_append_succ hd hl] at he
      obtain ⟨m, hm, h⟩ := hi he
      exact ⟨m, hm, h.prepend⟩

theorem publish_cutShort {j k : Nat} {e : Call × Reply}
    (he : (callsFor (publish c ex ms s).calls j)[k]? = some e) (hf : e.2.isRetryable)
    (hk : k + 1 < c.policy.maxAttempts)
    (hs : (e.1.scopeAfter e.2).HasStopped
      (Retry.waitEnd (e.1.now + e.2.elapsed) (c.policy.backoffAfter (k + 1)))) :
    ∃ m, ms[j]? = some m ∧ CutShort m e (publish c ex ms s) := by
  by_cases h : Refused ms
  case pos => simp [calls_of_refused h, callsFor, byMessage] at he
  case neg =>
    obtain ⟨r, hc, hr, hcs, hf'⟩ := publish_course c ex s (not_refused_iff.mp h)
    obtain ⟨m, hm, h⟩ := hc.cutShort (hcs ▸ he) hf hk hs
    exact ⟨m, hm, hcs ▸ h.last, hf' ▸ h.scope, hf' ▸ h.rests, hf' ▸ hr ▸ h.interrupted⟩

-- Publishing keeps to its scope. The scope that a publish call leaves behind tells when it stopped.
theorem publish_keeps_to_scope (c : Config) (ex : Executor σ) (ms : List Message)
    (s : Situation σ) :
    let r := publish c ex ms s
    -- Every call starts in a scope that has not stopped. It is the scope of the publish call, with
    -- the switch turned on if an earlier call did so.
    (∀ i e, r.calls[i]? = some e →
      e.1.scope = s.scope.behind (r.calls.take i) ∧ e.1.scope.stopped? e.1.now = none) ∧
    -- No call starts later than the scope stops.
    r.final.scope = s.scope.behind r.calls ∧
    (∀ t, r.final.scope.HasStopped t → ∀ e ∈ r.calls, e.1.now ≤ t) ∧
    -- Behind a call nobody waits in a scope that has stopped, and no wait goes on for longer than
    -- to the next whole millisecond when the scope stops.
    (∀ i p, r.pauses[i]? = some p →
      p.scope = s.scope.behind (r.calls.take (i + 1)) ∧ p.scope.Rests p.start p.finish) ∧
    -- If calls take no time, the publish call is over when the scope has stopped.
    ((∀ e ∈ r.calls, e.2.elapsed = 0) → ∀ t, s.now ≤ t → r.final.scope.HasStopped t →
      r.final.now ≤ t.wholeMilli) ∧
    -- If the scope stops while it is waited before attempt number `k + 2` for the message number
    -- `j`, then the wait is the last thing that happens. The switch counts before the deadline.
    (∀ j k e, (callsFor r.calls j)[k]? = some e → e.2.isRetryable → k + 1 < c.policy.maxAttempts →
      let start := e.1.now + e.2.elapsed
      let scope := e.1.scopeAfter e.2
      ∀ t, start ≤ t → t ≤ Retry.waitEnd start (c.policy.backoffAfter (k + 1)) →
        scope.HasStopped t →
        ∃ m, ms[j]? = some m ∧ r.calls.getLast? = some e ∧ r.final.scope = scope ∧
          start ≤ r.final.now ∧ r.final.now ≤ t.wholeMilli ∧ scope.HasStopped r.final.now ∧
          r.result = .error (.interrupted m.eventId <|
            if scope.isCancelled r.final.now then .cancelled else .deadlineExceeded)) := by
  intro r
  have l : Timeline s.scope s.now r.calls r.final.scope r.final.now := publish_timeline c ex ms s
  refine ⟨fun i e h => ⟨l.scope_eq h, ?_⟩, l.eq_behind, fun _ => l.now_le, fun _ _ => l.pause,
    fun h _ => l.le_wholeMilli h, ?_⟩
  case refine_1 =>
    exact Scope.not_hasStopped_iff.mp <| l.not_hasStopped e (List.mem_of_getElem? h)
  case refine_2 =>
    intro j k e he hf hk start scope t hst hte hs
    have ⟨m, hm, h⟩ := publish_cutShort he hf hk (hs.mono hte)
    have ⟨reason, hr, hres⟩ := h.interrupted
    have ⟨hs', hr⟩ := Scope.hasStopped_of_eq_some hr
    have hle := h.rests.prompt t hst (h.scope ▸ hs)
    rw [h.scope] at hr hs'
    exact ⟨m, hm, h.last, h.scope, h.rests.le, hle, hs', hr ▸ hres⟩

end Publisher
end Outbox

import Outbox.Proofs.Publisher.Course
import Outbox.Proofs.Waiting
/-!
Executors that answer alike. A publish call cannot tell them apart: over both it makes the same
calls at the same instants, reports the same and ends in the same way.
-/

namespace Outbox

variable {σ τ : Type}

-- From related states on, and from the instant `start` on, the executors give the same replies to
-- the same calls, and get to related states.
structure Executor.Alike (ex : Executor σ) (ex' : Executor τ) (start : Instant)
    (rel : σ → τ → Prop) : Prop where
  reply (call) {s t} : start ≤ call.now → rel s t → (ex call s).1 = (ex' call t).1
  state (call) {s t} : start ≤ call.now → rel s t → rel (ex call s).2 (ex' call t).2

namespace Publisher

open Executor (Call Reply)

variable {c : Config} {m : Message} {ms : List Message} {ex : Executor σ} {ex' : Executor τ}
  {start : Instant} {rel : σ → τ → Prop} {s s₁ s₂ : Situation σ} {r : Run σ} {t : τ} {k : Nat}
  {reply : Reply} {calls : List (Call × Reply)} {notices : List Notice}
  {f g : Situation σ → Run σ} {f' g' : Situation τ → Run τ}

-- The same situation with another executor.
def Situation.over (s : Situation σ) (t : τ) : Situation τ :=
  ⟨t, s.scope, s.now⟩

-- The same run with another executor, whose state is `t` in the end.
def Run.over (r : Run σ) (t : τ) : Run τ :=
  ⟨r.result, r.calls, r.notices, r.final.over t⟩

-- The other executor may be in the state `t` in this situation.
structure Situation.Beside (start : Instant) (rel : σ → τ → Prop) (s : Situation σ) (t : τ) :
    Prop where
  now   : start ≤ s.now
  store : rel s.store t

theorem Attempt.over (h : ex.Alike ex' start rel) (a : Attempt c ex m s₁ reply s₂)
    (hb : s₁.Beside start rel t) :
    ∃ t', Attempt c ex' m (s₁.over t) reply (s₂.over t') ∧ s₂.Beside start rel t' := by
  have hr : reply = (ex' (c.call m s₁) t).1 := by
    rw [← h.reply (c.call m s₁) hb.now hb.store, a.answered]
  have hs : rel s₂.store (ex' (c.call m s₁) t).2 := by
    have hs := h.state (c.call m s₁) hb.now hb.store
    rwa [a.answered] at hs
  have hn : start ≤ s₂.now := a.now ▸ Nat.le_trans hb.now (Nat.le_add_right ..)
  exact ⟨_, ⟨a.live, Prod.ext hr.symm rfl, a.scope, a.now⟩, hn, hs⟩

-- Writing a message goes the same way over the other executor.
theorem Insertion.over (h : ex.Alike ex' start rel) (i : Insertion c ex m k s r)
    (hb : s.Beside start rel t) :
    ∃ t', Insertion c ex' m k (s.over t) (r.over t') ∧ r.final.Beside start rel t' := by
  induction i generalizing t
  case stopped hs => exact ⟨t, .stopped hs, hb⟩
  case written a ha =>
    have ⟨t', a', hb'⟩ := a.over h hb
    exact ⟨t', .written a' ha, hb'⟩
  case interrupted a ha =>
    have ⟨t', a', hb'⟩ := a.over h hb
    exact ⟨t', .interrupted a' ha, hb'⟩
  case exhausted a ha hf hk =>
    have ⟨t', a', hb'⟩ := a.over h hb
    exact ⟨t', .exhausted a' ha hf hk, hb'⟩
  case cut a ha hf hk hw =>
    have ⟨t', a', hb'⟩ := a.over h hb
    have ⟨_, _, hr⟩ := Retry.wait_eq_error hw
    exact ⟨t', .cut a' ha hf hk hw, Nat.le_trans hb'.now hr.le, hb'.store⟩
  case again a ha hf hk hw _ hi =>
    have ⟨t', a', hb'⟩ := a.over h hb
    have ⟨_, _, hr⟩ := Retry.wait_eq_ok hw
    have ⟨t'', i', hb''⟩ := hi ⟨Nat.le_trans hb'.now hr.le, hb'.store⟩
    exact ⟨t'', .again a' ha hf hk hw i', hb''⟩

-- Work over the other executor that goes the same way, wherever it is begun.
def Follows (start : Instant) (rel : σ → τ → Prop) (f' : Situation τ → Run τ)
    (f : Situation σ → Run σ) : Prop :=
  ∀ s t, s.Beside start rel t →
    ∃ t', f' (s.over t) = (f s).over t' ∧ (f s).final.Beside start rel t'

namespace Follows

theorem ended {result : Except Failure Unit} {notices : List Notice} :
    Follows start rel (.ended result notices) (.ended result notices) :=
  fun _ t hb => ⟨t, rfl, hb⟩

theorem prepend (h : Follows start rel f' f) :
    Follows start rel (fun s => (f' s).prepend calls notices)
      (fun s => (f s).prepend calls notices) := by
  intro s t hb
  have ⟨t', he, hb'⟩ := h s t hb
  exact ⟨t', congrArg (Run.prepend calls notices) he, hb'⟩

theorem andThen (hf : Follows start rel f' f) (hg : Follows start rel g' g) :
    Follows start rel (fun s => (f' s).andThen g') (fun s => (f s).andThen g) := by
  intro s t hb
  have ⟨t', he, hb'⟩ := hf s t hb
  cases hr : (f s).result
  case error =>
    have hr' : ((f s).over t').result = _ := hr
    simp only [he, Run.andThen_of_error hr, Run.andThen_of_error hr']
    exact ⟨t', rfl, hb'⟩
  case ok =>
    have hr' : ((f s).over t').result = _ := hr
    have ⟨t'', he', hb''⟩ := hg _ _ hb'
    simp only [he, Run.andThen_of_ok hr, Run.andThen_of_ok hr']
    exact ⟨t'', congrArg (Run.prepend _ _) he', hb''⟩

end Follows

theorem insert_follows (h : ex.Alike ex' start rel) :
    Follows start rel (insert c ex' m) (insert c ex m) := by
  intro s t hb
  have i : Insertion c ex m 1 s (insert c ex m s) := insert_insertion
  have ⟨t', i', hb'⟩ := i.over h hb
  exact ⟨t', i'.insertFrom_eq (Nat.sub_add_cancel c.policy.maxAttempts_pos), hb'⟩

theorem insertAll_follows (h : ex.Alike ex' start rel) :
    Follows start rel (insertAll c ex' ms) (insertAll c ex ms) := by
  induction ms
  case nil => exact .ended
  case cons hi => exact .andThen (insert_follows h) hi

theorem insertBatches_follows (h : ex.Alike ex' start rel) {count index : Nat}
    {batches : List (List Message)} :
    Follows start rel (insertBatches c ex' count index batches)
      (insertBatches c ex count index batches) := by
  induction batches generalizing index
  case nil => exact .ended
  case cons hi => exact .andThen (.prepend (insertAll_follows h)) hi

-- A publish call takes the same course over both executors.
theorem publish_follows (h : ex.Alike ex' start rel) :
    Follows start rel (publish c ex' ms) (publish c ex ms) := by
  cases ms
  case nil => exact .ended
  case cons m ms =>
    unfold publish
    dsimp only
    split
    case h_1 => exact .ended
    case h_2 => exact .andThen (insertBatches_follows h) .ended

end Publisher
end Outbox

import Outbox.Proofs.Publisher.Timeline
import Outbox.Proofs.Store.Effect
/-!
Batches are seen in the log only: publishing goes the same way whatever their size, and as if there
were none.
-/

namespace Outbox.Publisher

open Store (Memory)

variable {σ : Type} {c : Config} {ex : Executor σ} {s : Situation σ} {m : Message}
  {ms : List Message} {r r' r'' : Run σ} {size : Nat} {pos : 0 < size}

-- The configuration with batches of another size.
def Config.withBatchSize (c : Config) (size : Nat) (pos : 0 < size) : Config :=
  { c with batchSize := size, batchSize_pos := pos }

namespace Config

@[simp] theorem call_withBatchSize : (c.withBatchSize size pos).call m s = c.call m s := rfl
@[simp] theorem policy_withBatchSize : (c.withBatchSize size pos).policy = c.policy := rfl
@[simp] theorem maxRetries_withBatchSize :
    (c.withBatchSize size pos).maxRetries = c.maxRetries := rfl

end Config

theorem insertFrom_withBatchSize {left k : Nat} :
    insertFrom (c.withBatchSize size pos) ex m left k s = insertFrom c ex m left k s := by
  induction left generalizing k s
  case zero =>
    unfold insertFrom
    simp only [Config.call_withBatchSize, Config.maxRetries_withBatchSize]
  case succ left hi =>
    unfold insertFrom
    simp only [Config.call_withBatchSize, Config.policy_withBatchSize, hi]

theorem insertAll_withBatchSize :
    insertAll (c.withBatchSize size pos) ex ms s = insertAll c ex ms s := by
  induction ms generalizing s
  case nil => rfl
  case cons m ms hi =>
    have h : insertAll (c.withBatchSize size pos) ex ms = insertAll c ex ms := funext fun _ => hi
    simp only [insertAll, insert, insertFrom_withBatchSize, Config.policy_withBatchSize, h]

-- Two runs are the same but for what they report: calls with the same statement and arguments are
-- made in the same scope and at the same instant and get the same answer, the same is waited behind
-- each of them, and both end in the same way.
structure Run.Agrees (r r' : Run σ) : Prop where
  result : r.result = r'.result
  calls  : r.calls = r'.calls
  pauses : r.pauses = r'.pauses
  final  : r.final = r'.final

namespace Run.Agrees

theorem symm (h : r.Agrees r') : r'.Agrees r :=
  ⟨h.result.symm, h.calls.symm, h.pauses.symm, h.final.symm⟩

theorem trans (h : r.Agrees r') (h' : r'.Agrees r'') : r.Agrees r'' where
  result := h.result.trans h'.result
  calls  := h.calls.trans h'.calls
  pauses := h.pauses.trans h'.pauses
  final  := h.final.trans h'.final

theorem refl (r : Run σ) : r.Agrees r :=
  ⟨rfl, rfl, rfl, rfl⟩

theorem of_eq (hr : r.result = r'.result) (hc : r.calls = r'.calls) (hf : r.final = r'.final) :
    r.Agrees r' :=
  ⟨hr, hc, by rw [Run.pauses, Run.pauses, hc, hf], hf⟩

end Run.Agrees

-- Publishing without batches: the messages are written one at a time.
def publishEach (c : Config) (ex : Executor σ) (ms : List Message) (s : Situation σ) : Run σ :=
  match firstInvalid? 0 ms with
  | some (index, defects) =>
    .ended (.error (.invalidMessage index defects)) [.invalid index defects] s
  | none => insertAll c ex ms s

theorem publish_agrees_publishEach : (publish c ex ms s).Agrees (publishEach c ex ms s) := by
  cases exists_firstInvalid_or_forall_valid ms
  case inl h =>
    have ⟨_, _, h⟩ := h
    rw [publish_of_firstInvalid h, publishEach, firstInvalid?_eq_some_iff.mpr h]
    exact .refl _
  case inr h =>
    have ⟨hr, hc, hf⟩ : _ ∧ _ ∧ (publish c ex ms s).final = _ := publish_eq_insertAll h
    rw [publishEach, firstInvalid?_eq_none_iff.mpr h]
    exact .of_eq hr hc hf

theorem publishEach_withBatchSize (pos : 0 < size) :
    publishEach (c.withBatchSize size pos) ex ms s = publishEach c ex ms s := by
  simp only [publishEach, insertAll_withBatchSize]

-- The size of batches does not matter but for what is reported, and neither do batches themselves.
theorem publish_withBatchSize (c : Config) (ex : Executor σ) (ms : List Message) (s : Situation σ)
    (size size' : Nat) (pos : 0 < size) (pos' : 0 < size') :
    let run := publish (c.withBatchSize size pos) ex ms s
    run.Agrees (publish (c.withBatchSize size' pos') ex ms s) ∧
    run.Agrees (publishEach c ex ms s) := by
  have h {size : Nat} (pos : 0 < size) :
      (publish (c.withBatchSize size pos) ex ms s).Agrees (publishEach c ex ms s) :=
    publishEach_withBatchSize pos ▸ publish_agrees_publishEach
  exact ⟨(h pos).trans (h pos').symm, h pos⟩

-- The third message of four is given up, with batches of three and with a single one.
theorem publish_withBatchSize_three_five :
    let ms := [sample "a", sample "b", sample "c", sample "d"]
    let s : Situation Memory := ⟨{ failNext := 1, failing := ["c"] }, .background, 0⟩
    let three := (Config.sample 1).withBatchSize 3 (by decide)
    let five := (Config.sample 1).withBatchSize 5 (by decide)
    let run := publish three Memory.execute ms s
    run.Agrees (publish five Memory.execute ms s) ∧
    run.result = .error (.retriesExhausted "c" 1 2 (.database "scripted failure for c")) ∧
    run.final.store.attempts = ["a", "a", "b", "c", "c"] := by
  intro ms s three five run
  have ⟨h, _⟩ := publish_withBatchSize (.sample 1) Memory.execute ms s 3 5 (by decide) (by decide)
  have valid : ∀ m ∈ ms, m.validate = .ok () := by decide
  have ⟨_, hc, hr, _, hf⟩ := publish_course three Memory.execute s valid
  have ⟨m, hm, hr', hf'⟩ := hc.blocked (fun _ => rfl) (by decide) (by decide : _ = some 2)
  cases hm
  have hf : run.final.store = _ := (congrArg Situation.store hf).trans hf'
  exact ⟨h, hr.trans hr', by rw [hf]; rfl⟩

end Outbox.Publisher

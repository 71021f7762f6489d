import Outbox.Proofs.Publisher.Outcome
/-!
What a publish call would do if one of its calls got another reply: the same, up to that call.
-/

namespace Outbox

open Executor (Call Reply)

variable {σ : Type}

-- The executor that answers so many calls as `view` does, and then gives another reply.
def Executor.amend (view : Executor σ) (reply : Reply) : Executor (Nat × σ)
  | _, (0, store)        => (reply, (0, store))
  | call, (k + 1, store) => ((view call store).1, (k, (view call store).2))

namespace Publisher

variable {c : Config} {view : Executor σ} {s s₁ s₂ : Situation σ} {r : Run σ} {m : Message}
  {ms : List Message} {reply reply' : Reply} {k n a : Nat} {call : Call}

-- So many calls are left before the amended one.
def Situation.counted (s : Situation σ) (k : Nat) : Situation (Nat × σ) :=
  ⟨(k, s.store), s.scope, s.now⟩

def Run.counted (r : Run σ) (k : Nat) : Run (Nat × σ) :=
  ⟨r.result, r.calls, r.notices, r.final.counted k⟩

theorem Attempt.amend (t : Attempt c view m s₁ reply s₂) :
    Attempt c (view.amend reply') m (s₁.counted (k + 1)) reply (s₂.counted k) where
  live     := t.live
  answered := by
    have ha : view (c.call m (s₁.counted (k + 1))) s₁.store = _ := t.answered
    simp only [Executor.amend, Situation.counted] at ha ⊢
    rw [ha]
  scope    := t.scope
  now      := t.now

-- Calls before the amended one are made and answered as they were.
theorem Insertion.amend (i : Insertion c view m a s r) :
    Insertion c (view.amend reply') m a (s.counted (k + r.calls.length)) (r.counted k) := by
  induction i
  case stopped hs => exact .stopped hs
  case written t ha => exact .written t.amend ha
  case interrupted t ha => exact .interrupted t.amend ha
  case exhausted t ha hf hk => exact .exhausted t.amend ha hf hk
  case cut t ha hf hk hw => exact .cut t.amend ha hf hk hw
  case again t ha hf hk hw _ hi => exact .again t.amend ha hf hk hw hi

theorem Attempt.entry_eq (t : Attempt c view m s₁ reply s₂) :
    some (c.call m s₁, reply) =
      if s₁.scope.stopped? s₁.now = none then some (c.call m s₁, (view (c.call m s₁) s₁.store).1)
      else none := by
  rw [if_pos t.live, t.answered]

-- The first call is made at once, unless the scope has stopped.
theorem Insertion.head?_calls (i : Insertion c view m a s r) :
    r.calls.head? =
      if s.scope.stopped? s.now = none then some (c.call m s, (view (c.call m s) s.store).1)
      else none := by
  induction i
  case stopped h => simp [h]
  case written t _ => exact t.entry_eq
  case interrupted t _ => exact t.entry_eq
  case exhausted t _ _ _ => exact t.entry_eq
  case cut t _ _ _ _ => exact t.entry_eq
  case again t _ _ _ _ _ _ => exact t.entry_eq

-- The call number `n` is made as it was, and another reply to it can be given.
theorem Insertion.exists_amended (reply' : Reply) (i : Insertion c view m a s r)
    (ha : a ≤ c.policy.maxAttempts) (he : r.calls[n]? = some (call, reply)) :
    ∃ r', Insertion c (view.amend reply') m a (s.counted n) r' ∧
      r.calls.take n ++ [(call, reply')] <+: r'.calls := by
  induction n generalizing a s r
  case zero =>
    rw [← List.head?_eq_getElem?, i.head?_calls, Option.ite_none_right_eq_some] at he
    have ⟨live, he⟩ := he
    have i' : Insertion c (view.amend reply') m a (s.counted 0) _ :=
      insertFrom_insertion (Nat.sub_add_cancel ha)
    have hc := i'.head?_calls.trans (if_pos live)
    have ⟨rest, hr⟩ := List.head?_eq_some_iff.mp hc
    obtain ⟨rfl, _⟩ := Prod.mk.inj (Option.some.inj he)
    exact ⟨_, i', rest, hr.symm⟩
  case succ n hn =>
    cases i
    case again hf hr hk hw i t =>
      have ⟨r', i', hp⟩ := hn i hk he
      exact ⟨_, .again t.amend hf hr hk hw i', List.cons_prefix_cons.mpr ⟨rfl, hp⟩⟩
    all_goals simp at he

theorem Course.exists_of_insertion (ms : List Message) (i : Insertion c view m 1 s r) :
    ∃ r', Course c view (m :: ms) s r' ∧ r.calls <+: r'.calls := by
  cases h : r.result
  case error => exact ⟨r, .failed i h, List.prefix_refl _⟩
  case ok => exact ⟨_, .next i h insertAll_course, List.prefix_append _ _⟩

theorem Course.exists_amended (reply' : Reply) (h : Course c view ms s r)
    (he : r.calls[n]? = some (call, reply)) :
    ∃ r', Course c (view.amend reply') ms (s.counted n) r' ∧
      r.calls.take n ++ [(call, reply')] <+: r'.calls := by
  induction h generalizing n
  case done => simp at he
  case failed ms _ _ _ i _ =>
    have ⟨_, i', hp⟩ := i.exists_amended reply' c.policy.maxAttempts_pos he
    have ⟨r', h, hp'⟩ := exists_of_insertion ms i'
    exact ⟨r', h, hp.trans hp'⟩
  case next ms _ r r' i hr _ hi =>
    rw [Run.calls_prepend] at he ⊢
    cases Nat.lt_or_ge n r.calls.length
    case inl hn =>
      rw [List.getElem?_append_left hn] at he
      have ⟨_, i', hp⟩ := i.exists_amended reply' c.policy.maxAttempts_pos he
      have ⟨r', h, hp'⟩ := exists_of_insertion ms i'
      refine ⟨r', h, ?_⟩
      rw [List.take_append_of_le_length (Nat.le_of_lt hn)]
      exact hp.trans hp'
    case inr hn =>
      obtain ⟨n, rfl⟩ := Nat.exists_eq_add_of_le' hn
      rw [List.getElem?_append_right hn, Nat.add_sub_cancel] at he
      have ⟨_, h, hp⟩ := hi he
      refine ⟨_, .next i.amend hr h, ?_⟩
      rw [Nat.add_comm, List.take_length_add_append, List.append_assoc]
      exact (List.prefix_append_right_inj _).mpr hp

theorem Course.insertAll_eq (h : Course c view ms s r) : insertAll c view ms s = r := by
  have insert_eq {m s r} (i : Insertion c view m 1 s r) : insert c view m s = r :=
    i.insertFrom_eq (Nat.sub_add_cancel c.policy.maxAttempts_pos)
  induction h
  case done => rfl
  case failed i hr => rw [insertAll, insert_eq i, Run.andThen_of_error hr]
  case next i hr _ hi => rw [insertAll, insert_eq i, Run.andThen_of_ok hr, hi]

-- There is no other course than the one that a publish call takes.
theorem Course.publish_eq (h : Course c view ms s r) (valid : ∀ m ∈ ms, m.validate = .ok ()) :
    (publish c view ms s).result = r.result ∧ (publish c view ms s).calls = r.calls :=
  have ⟨hr, hc, _⟩ := publish_eq_insertAll valid
  ⟨h.insertAll_eq ▸ hr, h.insertAll_eq ▸ hc⟩

-- If the call number `n` gets another reply, the calls up to it are the same.
theorem publish_amend (reply' : Reply)
    (he : (publish c view ms s).calls[n]? = some (call, reply)) :
    (publish c view ms s).calls.take n ++ [(call, reply')] <+:
      (publish c (view.amend reply') ms (s.counted n)).calls := by
  by_cases h : Refused ms
  case pos => simp [calls_of_refused h] at he
  case neg =>
    have valid := not_refused_iff.mp h
    have ⟨r, hc, _, hcs, _⟩ := publish_course c view s valid
    rw [hcs] at he ⊢
    have ⟨r', hc', hp⟩ := hc.exists_amended reply' he
    exact (hc'.publish_eq valid).2 ▸ hp

end Publisher
end Outbox

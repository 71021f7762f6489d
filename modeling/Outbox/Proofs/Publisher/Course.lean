import Outbox.Proofs.Publisher.Insertion
/-!
The course of a publish call: which messages are written, and that batches have no part in it.
-/

namespace Outbox.Publisher

open Executor (Call Reply)

variable {σ : Type} {c : Config} {ex : Executor σ} {s : Situation σ} {ms : List Message}

namespace Run

variable {r : Run σ} {next next' : Situation σ → Run σ}

theorem andThen_of_ok (h : r.result = .ok ()) :
    r.andThen next = (next r.final).prepend r.calls r.notices := by
  simp [andThen, h]

theorem andThen_of_error {failure : Failure} (h : r.result = .error failure) :
    r.andThen next = r := by
  simp [andThen, h]

theorem forall_notices_andThen {p : Notice → Prop} (h₁ : ∀ n ∈ r.notices, p n)
    (h₂ : ∀ s, ∀ n ∈ (next s).notices, p n) : ∀ n ∈ (r.andThen next).notices, p n := by
  cases h : r.result
  case error => rwa [andThen_of_error h]
  case ok =>
    rw [andThen_of_ok h]
    exact List.forall_mem_append.mpr ⟨h₁, h₂ _⟩

-- A run without its notices.
def quiet (r : Run σ) : Run σ :=
  { r with notices := [] }

theorem quiet_andThen : (r.andThen next).quiet = r.quiet.andThen fun s => (next s).quiet := by
  cases h : r.result
  all_goals simp [andThen, quiet, prepend, h]

theorem andThen_assoc :
    (r.andThen next).andThen next' = r.andThen fun s => (next s).andThen next' := by
  cases h : r.result
  case error => simp [andThen, h]
  case ok =>
    simp only [andThen_of_ok h]
    cases h' : (next r.final).result
    all_goals simp [andThen, h', prepend]

end Run

-- The messages of a list are written one after the other until one of them is given up.
inductive Course (c : Config) (ex : Executor σ) : List Message → Situation σ → Run σ → Prop
  | done {s : Situation σ} :
    Course c ex [] s (.ended (.ok ()) [] s)
  | failed {m : Message} {ms s r failure} :
    (Insertion c ex m 1 s r) → (r.result = .error failure) → Course c ex (m :: ms) s r
  | next {m : Message} {ms s r r'} :
    (Insertion c ex m 1 s r) → (r.result = .ok ()) → (Course c ex ms r.final r') →
    Course c ex (m :: ms) s (r'.prepend r.calls r.notices)

theorem insertAll_course : Course c ex ms s (insertAll c ex ms s) := by
  induction ms generalizing s
  case nil => exact .done
  case cons m ms hi =>
    unfold insertAll
    cases h : (insert c ex m s).result
    case error =>
      rw [Run.andThen_of_error h]
      exact .failed insert_insertion h
    case ok =>
      rw [Run.andThen_of_ok h]
      exact .next insert_insertion h hi

theorem insertAll_append {ms' : List Message} :
    insertAll c ex (ms ++ ms') s = (insertAll c ex ms s).andThen (insertAll c ex ms') := by
  induction ms generalizing s
  case nil => rfl
  case cons m ms hi =>
    simp only [List.cons_append, insertAll, Run.andThen_assoc]
    congr
    funext s
    exact hi

theorem insertBatches_quiet {count index : Nat} {batches : List (List Message)} :
    (insertBatches c ex count index batches s).quiet =
      (insertAll c ex batches.flatten s).quiet := by
  induction batches generalizing index s
  case nil => rfl
  case cons batch batches hi =>
    simp only [insertBatches, List.flatten_cons, insertAll_append, Run.quiet_andThen, hi]
    rfl

-- The message with the number `index` is the first one of the list that is not complete.
def FirstInvalid (ms : List Message) (index : Nat) (defects : Message.Defects) : Prop :=
  ∃ h : index < ms.length, ms[index].validate = .error defects ∧
    ∀ i, (hi : i < index) → ms[i].validate = .ok ()

namespace FirstInvalid

variable {m : Message} {index : Nat} {defects : Message.Defects}

theorem zero_iff : FirstInvalid (m :: ms) 0 defects ↔ m.validate = .error defects := by
  simp [FirstInvalid]

theorem succ_iff :
    FirstInvalid (m :: ms) (index + 1) defects ↔
      m.validate = .ok () ∧ FirstInvalid ms index defects := by
  constructor
  case mp =>
    intro ⟨h, hd, hi⟩
    refine ⟨hi 0 (Nat.zero_lt_succ _), Nat.lt_of_succ_lt_succ h, hd, fun i hi' => ?_⟩
    exact hi (i + 1) (Nat.succ_lt_succ hi')
  case mpr =>
    intro ⟨hm, h, hd, hi⟩
    refine ⟨Nat.succ_lt_succ h, hd, fun i hi' => ?_⟩
    cases i
    case zero => exact hm
    case succ i => exact hi i (Nat.lt_of_succ_lt_succ hi')

-- All rules that the message breaks are told.
theorem violations_eq (h : FirstInvalid ms index defects) :
    ∃ m, ms[index]? = some m ∧ defects.violations = m.violations := by
  have ⟨hi, hd, _⟩ := h
  refine ⟨ms[index], List.getElem?_eq_getElem hi, ?_⟩
  unfold Message.validate at hd
  split at hd
  case h_1 => cases hd
  case h_2 =>
    cases hd
    rfl

end FirstInvalid

theorem firstInvalid?_eq_none_iff {n : Nat} :
    firstInvalid? n ms = none ↔ ∀ m ∈ ms, m.validate = .ok () := by
  induction ms generalizing n
  case nil => simp [firstInvalid?]
  case cons m ms hi =>
    cases h : m.validate
    all_goals simp [firstInvalid?, h, hi]

theorem firstInvalid?_eq_map {n : Nat} :
    firstInvalid? n ms = (firstInvalid? 0 ms).map fun (i, defects) => (n + i, defects) := by
  induction ms generalizing n
  case nil => rfl
  case cons m ms hi =>
    cases h : m.validate
    case error => simp [firstInvalid?, h]
    case ok =>
      simp only [firstInvalid?, h, hi (n := n + 1), hi (n := 0 + 1), Option.map_map]
      congr
      funext (i, defects)
      simp only [Function.comp_apply, Nat.zero_add, Nat.add_assoc]

theorem firstInvalid?_eq_some_iff {index : Nat} {defects : Message.Defects} :
    firstInvalid? 0 ms = some (index, defects) ↔ FirstInvalid ms index defects := by
  induction ms generalizing index
  case nil => simp [firstInvalid?, FirstInvalid]
  case cons m ms hi =>
    cases h : m.validate <;> cases index
    case error.zero => simp [firstInvalid?, h, FirstInvalid.zero_iff]
    case error.succ => simp [firstInvalid?, h, FirstInvalid.succ_iff]
    case ok.zero => simp [firstInvalid?, h, firstInvalid?_eq_map (n := 1), FirstInvalid.zero_iff]
    case ok.succ =>
      simp [firstInvalid?, h, firstInvalid?_eq_map (n := 1), FirstInvalid.succ_iff, ← hi,
        Nat.add_comm 1]

theorem publish_of_firstInvalid {index : Nat} {defects : Message.Defects}
    (h : FirstInvalid ms index defects) :
    publish c ex ms s =
      .ended (.error (.invalidMessage index defects)) [.invalid index defects] s := by
  cases ms
  case nil => exact absurd h.1 (Nat.not_lt_zero _)
  case cons => simp only [publish, firstInvalid?_eq_some_iff.mpr h]

-- Either the list has a first message that is not complete, or all messages are complete.
theorem exists_firstInvalid_or_forall_valid (ms : List Message) :
    (∃ index defects, FirstInvalid ms index defects) ∨ (∀ m ∈ ms, m.validate = .ok ()) := by
  cases h : firstInvalid? 0 ms
  case none => exact .inr (firstInvalid?_eq_none_iff.mp h)
  case some => exact .inl ⟨_, _, firstInvalid?_eq_some_iff.mp h⟩

theorem publish_quiet (h : ∀ m ∈ ms, m.validate = .ok ()) :
    (publish c ex ms s).quiet = (insertAll c ex ms s).quiet := by
  cases ms
  case nil => rfl
  case cons m ms =>
    simp only [publish, firstInvalid?_eq_none_iff.mpr h, Run.quiet_andThen, insertBatches_quiet,
      flatten_chunks]
    cases hr : (insertAll c ex (m :: ms) s).result
    all_goals simp [Run.quiet, Run.andThen, Run.prepend, hr, Run.ended]

theorem publish_eq_insertAll (h : ∀ m ∈ ms, m.validate = .ok ()) :
    (publish c ex ms s).result = (insertAll c ex ms s).result ∧
    (publish c ex ms s).calls = (insertAll c ex ms s).calls ∧
    (publish c ex ms s).final = (insertAll c ex ms s).final := by
  have hq : (publish c ex ms s).quiet = (insertAll c ex ms s).quiet := publish_quiet h
  simp only [Run.quiet, Run.mk.injEq] at hq
  have ⟨hr, hc, _, hf⟩ := hq
  exact ⟨hr, hc, hf⟩

variable (c ex s) in
-- Apart from what is reported, a publish call of complete messages takes their course.
theorem publish_course (h : ∀ m ∈ ms, m.validate = .ok ()) :
    ∃ r, Course c ex ms s r ∧ (publish c ex ms s).result = r.result ∧
      (publish c ex ms s).calls = r.calls ∧ (publish c ex ms s).final = r.final :=
  ⟨_, insertAll_course, publish_eq_insertAll h⟩

end Outbox.Publisher

import Mathlib.Logic.Relation
import Outbox.Proofs.Publisher.Caller
import Outbox.Proofs.Store.Resumption
/-!
A table that several publish calls share. Their calls reach it in any order, one at a time.
-/

namespace Outbox

namespace Store.Memory

open Executor (Call Reply)
open Publisher (stored?)

variable {mem mem' : Memory} {id : String} {row : Row} {n : Nat} {e : Call × Reply}

theorem not_refuses_of_ok (h : mem.insert id row = (.ok n, mem')) : ¬mem.Refuses id := by
  cases inserts_of_eq h
  case accepted hr => exact hr

-- A call is answered by the table and leaves another table behind, whatever else happens in the
-- course of it.
def Answers (mem : Memory) (e : Call × Reply) (mem' : Memory) : Prop :=
  ∃ w : Meanwhile, executeAmid (fun _ _ => w) e.1 mem = (e.2, mem')

theorem exists_answers (mem : Memory) (call : Call) :
    ∃ reply mem', mem.Answers (call, reply) mem' :=
  let w := Meanwhile.nothing call mem
  ⟨(executeAmid (fun _ _ => w) call mem).1, (executeAmid (fun _ _ => w) call mem).2, w, rfl⟩

-- Either nothing is stored, or a row with an id that is not in the table.
theorem Answers.stored (h : mem.Answers e mem') :
    (stored? e = none ∧ mem'.rows = mem.rows) ∨
    (∃ row id, stored? e = some row ∧ row.eventId? = some id ∧ id ∉ mem.storedIds ∧
      mem'.rows = mem.rows ++ [row]) := by
  obtain ⟨_, h⟩ := h
  cases executeAmid_cases h
  case inl h =>
    obtain ⟨_, ha, hm⟩ := h
    exact .inl ⟨by simp [stored?, ha], by rw [hm]⟩
  case inr h =>
    obtain ⟨id, hid, hi⟩ := h
    cases insert_cases hi
    case inl h =>
      refine .inr ⟨⟨e.1.statement, e.1.arguments⟩, id, by simp [stored?, h.1], hid, ?_, h.2⟩
      exact (not_or.mp (not_refuses_of_ok (h.1 ▸ hi))).2
    case inr h =>
      obtain ⟨_, ha, hr⟩ := h
      exact .inl ⟨by simp [stored?, ha], hr⟩

end Store.Memory

namespace Publisher

open Executor (Call Reply)
open Store (Memory Row)

-- The table, and the calls up to now, each with the one who made it.
structure World (ι : Type) where
  store : Memory
  log   : List (ι × Call × Reply)

namespace World

variable {ι : Type} {callers : ι → Caller} {w w' : World ι} {mem : Memory} {i i' : ι}
  {e : Call × Reply} {id : String} {row row' : Row}

-- The id of the row that a call stores.
def storedId? (x : ι × Call × Reply) : Option String :=
  (stored? x.2).bind Row.eventId?

-- Two calls do not store rows with the same id.
def Apart (x x' : ι × Call × Reply) : Prop :=
  ∀ id, storedId? x = some id → storedId? x' ≠ some id

instance : Std.Symm (@Apart ι) :=
  ⟨fun _ _ h id hx hx' => h id hx' hx⟩

-- The world behind one more call.
def called (w : World ι) (i : ι) (e : Call × Reply) (mem : Memory) : World ι :=
  ⟨mem, w.log ++ [(i, e)]⟩

@[simp] theorem store_called : (w.called i e mem).store = mem := rfl
@[simp] theorem log_called : (w.called i e mem).log = w.log ++ [(i, e)] := rfl

section

variable [DecidableEq ι]

-- The calls that somebody made.
def callsOf (w : World ι) (i : ι) : List (Call × Reply) :=
  w.log.filterMap fun (i', e) => if i' = i then some e else none

-- The rows that somebody stored.
def rowsOf (w : World ι) (i : ι) : List Row :=
  (w.callsOf i).filterMap stored?

theorem mem_callsOf : e ∈ w.callsOf i ↔ (i, e) ∈ w.log := by
  simp [callsOf]

theorem callsOf_called_self : (w.called i e mem).callsOf i = w.callsOf i ++ [e] := by
  simp [callsOf, called]

theorem callsOf_called_of_ne (h : i ≠ i') : (w.called i e mem).callsOf i' = w.callsOf i' := by
  simp [callsOf, called, h]

-- Somebody makes his next call, or something is done to the table that leaves its rows alone. What
-- a caller waits lies between its own calls. Instants of different callers are not compared, so
-- others may make any number of calls in the meantime.
inductive Step (callers : ι → Caller) : World ι → World ι → Prop
  | call {w : World ι} {i e mem} :
    ((callers i).Makes (w.callsOf i ++ [e])) → (w.store.Answers e mem) →
    Step callers w (w.called i e mem)
  | change {w : World ι} {mem} :
    (mem.rows = w.store.rows) → Step callers w { w with store := mem }

abbrev Reaches (callers : ι → Caller) : World ι → World ι → Prop :=
  Relation.ReflTransGen (Step callers)

theorem Step.rows_prefix (h : Step callers w w') : w.store.rows <+: w'.store.rows := by
  cases h
  case change h => simp [h]
  case call ha =>
    cases ha.stored
    case inl h => simp [h.2]
    case inr h =>
      have ⟨row, _, _, _, _, hr⟩ := h
      exact ⟨[row], hr.symm⟩

theorem Reaches.rows_prefix (h : Reaches callers w w') : w.store.rows <+: w'.store.rows := by
  induction h
  case refl => exact List.prefix_refl _
  case tail h hi => exact hi.trans h.rows_prefix

-- What is so in every world that is reached from a table, where nobody made a call before.
structure Invariant (callers : ι → Caller) (mem : Memory) (w : World ι) : Prop where
  rows  : w.store.rows = mem.rows ++ w.log.filterMap fun (_, e) => stored? e
  nodup : w.store.storedIds.Nodup
  makes : ∀ i, (callers i).Makes (w.callsOf i)

namespace Invariant

theorem initial (h : mem.storedIds.Nodup) : Invariant callers mem ⟨mem, []⟩ where
  rows    := by simp
  nodup   := h
  makes _ := .nil

theorem step (v : Invariant callers mem w) (h : Step callers w w') : Invariant callers mem w' := by
  cases h
  case change h =>
    refine { rows := h.trans v.rows, nodup := ?_, makes := v.makes }
    simpa [Memory.storedIds, h] using v.nodup
  case call i e mem' hm ha =>
    have makes : ∀ i', (callers i').Makes ((w.called i e mem').callsOf i') := by
      intro i'
      by_cases hi : i = i'
      case pos => rwa [← hi, callsOf_called_self]
      case neg =>
        rw [callsOf_called_of_ne hi]
        exact v.makes i'
    cases ha.stored
    case inl h =>
      obtain ⟨hn, hr⟩ := h
      refine { rows := ?_, nodup := ?_, makes }
      · simp [hr, v.rows, hn]
      · simpa [Memory.storedIds, hr] using v.nodup
    case inr h =>
      obtain ⟨row, id, hs, hid, hf, hr⟩ := h
      refine { rows := ?_, nodup := ?_, makes }
      · simp [hr, v.rows, hs]
      · have : mem'.storedIds = w.store.storedIds.concat id := by simp [Memory.storedIds, hr, hid]
        exact this ▸ v.nodup.concat hf

theorem of_reaches (h : mem.storedIds.Nodup) (hr : Reaches callers ⟨mem, []⟩ w) :
    Invariant callers mem w := by
  induction hr
  case refl => exact initial h
  case tail h hi => exact hi.step h

theorem pairwise_apart (v : Invariant callers mem w) : w.log.Pairwise Apart := by
  have h := v.nodup
  rw [Memory.storedIds, v.rows, List.filterMap_append, List.filterMap_filterMap] at h
  exact (List.pairwise_filterMap.mp h.of_append_right).imp fun h id hx hx' => h id hx id hx' rfl

-- An id is not stored by two callers.
theorem eq_of_stored (v : Invariant callers mem w) (h : row ∈ w.rowsOf i)
    (h' : row' ∈ w.rowsOf i') (hr : row.eventId? = some id) (hr' : row'.eventId? = some id) :
    i = i' := by
  have ⟨e, he, hs⟩ := List.mem_filterMap.mp h
  have ⟨e', he', hs'⟩ := List.mem_filterMap.mp h'
  have hid : storedId? (i, e) = some id := by simp [storedId?, hs, hr]
  have hid' : storedId? (i', e') = some id := by simp [storedId?, hs', hr']
  by_contra hi
  have hne : (i, e) ≠ (i', e') := fun h => hi (congrArg Prod.fst h)
  exact v.pairwise_apart.forall (mem_callsOf.mp he) (mem_callsOf.mp he') hne id hid hid'

-- Nobody has to wait for others.
theorem returns_or_steps (v : Invariant callers mem w) (i : ι) :
    (∃ result, (callers i).Returns (w.callsOf i) result) ∨
    (∃ e mem', Step callers w (w.called i e mem')) := by
  cases (v.makes i).returns_or_next
  case inl h => exact .inl h
  case inr h =>
    have ⟨call, h⟩ := h
    have ⟨reply, mem', ha⟩ := w.store.exists_answers call
    exact .inr ⟨(call, reply), mem', .call (h reply) ha⟩

end Invariant

end

end World

-- Publish calls that share a table, whatever the order is in which their calls reach it. The world
-- `w` is any one that is reached from a table, and `w'` is any later one.
theorem publish_together {ι : Type} [DecidableEq ι] {mem : Memory} {w w' : World ι}
    (callers : ι → Caller) (nodup : mem.storedIds.Nodup)
    (reached : World.Reaches callers ⟨mem, []⟩ w) (later : World.Reaches callers w w') :
    let Succeeds i := (callers i).Returns (w.callsOf i) (.ok ())
    -- No id is in the table twice.
    w.store.storedIds.Nodup ∧
    -- Rows are added by the calls that succeed, in their order, and stay.
    (w.store.rows = mem.rows ++ w.log.filterMap fun (_, e) => stored? e) ∧
    (w.store.rows <+: w'.store.rows) ∧
    -- Every caller stores the rows of some first messages of its own, and of all if it succeeds.
    (∀ i, ∃ first, first <+: (callers i).messages ∧
      w.rowsOf i = first.map (callers i).config.row ∧
      (Succeeds i → first = (callers i).messages)) ∧
    -- Of two callers with an id in common only one succeeds.
    (∀ i i', i ≠ i' → ∀ m ∈ (callers i).messages, ∀ m' ∈ (callers i').messages,
      m.eventId = m'.eventId → ¬(Succeeds i ∧ Succeeds i')) ∧
    -- Every caller that has not returned can go next.
    (∀ i, (∃ result, (callers i).Returns (w.callsOf i) result) ∨
      (∃ e mem', World.Step callers w (w.called i e mem'))) := by
  intro Succeeds
  have v : World.Invariant callers mem w := .of_reaches nodup reached
  have stored {i} (h : Succeeds i) : w.rowsOf i = (callers i).messages.map (callers i).config.row :=
    h.stored
  refine ⟨v.nodup, v.rows, later.rows_prefix, fun i => ?_, fun i i' hi m hm m' hm' hid h => ?_,
    v.returns_or_steps⟩
  case refine_1 =>
    by_cases h : Succeeds i
    case pos => exact ⟨_, List.prefix_refl _, stored h, fun _ => rfl⟩
    case neg =>
      have ⟨first, hp, hs⟩ := List.prefix_map_iff.mp (v.makes i).stored
      exact ⟨first, hp, hs, fun h' => absurd h' h⟩
  case refine_2 =>
    have hr := List.mem_map_of_mem (f := (callers i).config.row) hm
    have hr' := List.mem_map_of_mem (f := (callers i').config.row) hm'
    rw [← stored h.1] at hr
    rw [← stored h.2] at hr'
    exact hi (v.eq_of_stored hr hr' (hid ▸ rfl) rfl)

-- Two callers with the message `b` in common: it is stored by the one that is there first.
theorem publish_together_with_common_id :
    let c := Config.sample 0
    let callers (i : Bool) : Caller :=
      ⟨c, if i then [sample "a", sample "b"] else [sample "b"], .background, 0⟩
    ∃ w, World.Reaches callers ⟨.empty, []⟩ w ∧
      w.store.rows = [c.row (sample "a"), c.row (sample "b")] ∧
      (callers false).Returns (w.callsOf false) (.ok ()) ∧
      ¬(callers true).Returns (w.callsOf true) (.ok ()) := by
  intro c callers
  let call (id : String) : Call := ⟨.background, 0, c.statement, (sample id).arguments⟩
  let stored : Reply := { answer := .ok 1 }
  let refused : Reply := { answer := .error (.database
    "duplicate key value violates unique constraint on event_id b") }
  let mem₁ : Memory := ⟨[c.row (sample "a")], ["a"], 0, []⟩
  let mem₂ : Memory := ⟨[c.row (sample "a"), c.row (sample "b")], ["a", "b"], 0, []⟩
  let mem₃ : Memory := ⟨[c.row (sample "a"), c.row (sample "b")], ["a", "b", "b"], 0, []⟩
  have a₁ : Memory.empty.Answers (call "a", stored) mem₁ := ⟨.nothing (call "a") .empty, rfl⟩
  have a₂ : mem₁.Answers (call "b", stored) mem₂ := ⟨.nothing (call "b") .empty, rfl⟩
  have a₃ : mem₂.Answers (call "b", refused) mem₃ := ⟨.nothing (call "b") .empty, rfl⟩
  -- Both are shown the replies one after the other.
  let view : Executor (List Reply) := fun _ replies => (replies.headD stored, replies.tail)
  let s (replies : List Reply) : Situation (List Reply) := ⟨replies, .background, 0⟩
  have t₁ : Attempt c view (sample "a") (s [stored, refused]) stored (s [refused]) :=
    ⟨rfl, rfl, rfl, rfl⟩
  have t₂ : Attempt c view (sample "b") (s [refused]) refused (s []) := ⟨rfl, rfl, rfl, rfl⟩
  have t₃ : Attempt c view (sample "b") (s [stored]) stored (s []) := ⟨rfl, rfl, rfl, rfl⟩
  have h : Course c view [sample "a", sample "b"] (s [stored, refused]) _ :=
    .next (.written t₁ rfl) rfl (.failed (.exhausted t₂ rfl rfl (by decide)) rfl)
  have h' : Course c view [sample "b"] (s [stored]) _ := .next (.written t₃ rfl) rfl .done
  have ⟨hr, hc⟩ := h.publish_eq (by decide)
  have ⟨hr', hc'⟩ := h'.publish_eq (by decide)
  have r : (callers true).Returns [(call "a", stored), (call "b", refused)] _ :=
    ⟨_, view, _, hc, hr⟩
  have r' : (callers false).Returns [(call "b", stored)] (.ok ()) := ⟨_, view, _, hc', hr'⟩
  have m : (callers true).Makes [(call "a", stored)] := r.makes.of_prefix (List.prefix_append _ _)
  have reached : World.Reaches callers ⟨.empty, []⟩ _ :=
    .tail (.tail (.tail .refl (.call m a₁)) (.call r'.makes a₂)) (.call r.makes a₃)
  have nodup : Memory.empty.storedIds.Nodup := List.nodup_nil
  have ⟨_, hr, _, _, hx, _⟩ := publish_together callers nodup reached .refl
  have hb : sample "b" ∈ (callers true).messages := .tail _ (.head _)
  have hb' : sample "b" ∈ (callers false).messages := .head _
  refine ⟨_, reached, hr, r', fun h => ?_⟩
  exact hx true false (by decide) _ hb _ hb' rfl ⟨h, r'⟩

end Publisher
end Outbox

import Outbox.Settings.File
/-!
Trees of settings that are filled by paths. A value is found where it was put, and what does not
lie on its way stays. A file that speaks of a key once leaves there just what it says.
-/

namespace Outbox.Setting

variable {s target target' value : Setting} {k key : String} {path : List Char} {step : Step}
  {rest : List Step} {es acc entries : List (String × Setting)}

-- No table of the tree has a key twice. Lists are not looked into.
inductive Distinct : Setting → Prop
  | intro {s : Setting} (nodup : (s.entries.map (·.1)).Nodup)
      (inner : ∀ e ∈ s.entries, Distinct e.2) : Distinct s

theorem Distinct.nodup (h : s.Distinct) : (s.entries.map (·.1)).Nodup := by
  cases h
  assumption

theorem Distinct.inner (h : s.Distinct) : ∀ e ∈ s.entries, e.2.Distinct := by
  cases h
  assumption

theorem Distinct.of_entries_eq_nil (h : s.entries = []) : s.Distinct :=
  .intro (by simp [h]) (by simp [h])

theorem replaceEntry_of_not_mem (h : k ∉ es.map (·.1)) :
    replaceEntry k value es = es ++ [(k, value)] := by
  induction es
  case nil => rfl
  case cons e es hi =>
    rw [List.map_cons, List.mem_cons, not_or] at h
    rw [replaceEntry, if_neg (Ne.symm h.1), hi h.2, List.cons_append]

theorem withEntry_of_not_mem (h : k ∉ es.map (·.1)) :
    (table es).withEntry k value = table (es ++ [(k, value)]) :=
  congrArg table (replaceEntry_of_not_mem h)

theorem get?_eq_none_iff : (table es).get? k = none ↔ k ∉ es.map (·.1) := by
  simp only [get?, Setting.entries, List.lookup_eq_none_iff, List.mem_map, not_exists, not_and,
    bne_iff_ne]
  exact ⟨fun h e he hk => h e he hk.symm, fun h e he hk => h e he hk.symm⟩

theorem putAll_of_nodup (hn : ((acc ++ es).map (·.1)).Nodup)
    (hp : ∀ e ∈ es, ∀ target : Setting, ∀ key, target.get? key = none →
      target.put key e.2 = target.withEntry key e.2) :
    (table acc).putAll es = table (acc ++ es) := by
  induction es generalizing acc
  case nil => rw [putAll, List.append_nil]
  case cons e es hi =>
    have hk : e.1 ∉ acc.map (·.1) := by
      rw [List.map_append, List.nodup_append] at hn
      exact fun h => hn.2.2 _ h _ (by simp) rfl
    rw [putAll, hp e (.head _) _ _ (get?_eq_none_iff.mpr hk), withEntry_of_not_mem hk,
      hi (by simpa using hn) fun e he => hp e (.tail _ he), List.append_assoc,
      List.singleton_append]

-- Where nothing is yet, a tree is put as it is.
theorem put_of_distinct (hs : s.Distinct) (ht : target.get? key = none) :
    target.put key s = target.withEntry key s := by
  induction hs generalizing target key
  case intro s hn hd hi =>
    cases s
    case table es =>
      have he : target.entryOrEmpty key = table [] := by rw [entryOrEmpty, ht, Option.getD_none]
      have hes : (table []).putAll es = table ([] ++ es) :=
        putAll_of_nodup hn fun e he _ _ ht => hi e he ht
      rw [put, he, hes, List.nil_append]
    all_goals rfl

theorem exists_put_eq : ∃ v, target.put key value = target.withEntry key v := by
  cases value
  all_goals exact ⟨_, rfl⟩

theorem exists_putAt_eq : ∃ v, target.putAt value (.entry key) rest = target.withEntry key v := by
  cases rest
  case nil => exact exists_put_eq
  case cons => exact ⟨_, rfl⟩

theorem exists_steps_eq (path : List Char) : ∃ name rest, steps path = (.entry name, rest) := by
  unfold steps
  cases name? path
  case none => exact ⟨_, _, rfl⟩
  case some p =>
    simp only [bind, Option.bind]
    cases steps? p.2.length p.2
    case none => exact ⟨_, _, rfl⟩
    case some => exact ⟨_, _, rfl⟩

theorem exists_putPath_eq (target : Setting) (path : List Char) (value : Setting) :
    ∃ name v, (steps path).1 = .entry name ∧
      target.putPath path value = target.withEntry name v := by
  obtain ⟨name, rest, hs⟩ := exists_steps_eq path
  have hv : ∃ v, target.putAt value (.entry name) rest = target.withEntry name v := exists_putAt_eq
  obtain ⟨v, hv⟩ := hv
  refine ⟨name, v, congrArg Prod.fst hs, ?_⟩
  rw [putPath, hs]
  exact hv

-- A tree into which something was put is a table.
theorem exists_putPath_eq_table : ∃ es, target.putPath path value = table es := by
  obtain ⟨name, v, _, hp⟩ := exists_putPath_eq target path value
  exact ⟨_, hp⟩

theorem exists_putPaths_eq (h : ∃ es, target = table es) :
    ∃ es, target.putPaths entries = table es := by
  induction entries generalizing target
  case nil => exact h
  case cons e entries hi => exact hi exists_putPath_eq_table

theorem get?_putPath_of_ne (h : (steps path).1 ≠ .entry k) :
    (target.putPath path value).get? k = target.get? k := by
  obtain ⟨name, v, hs, hp⟩ := exists_putPath_eq target path value
  have hk : k ≠ name := fun hk => h (by rw [hs, hk])
  rw [hp, get?_withEntry, if_neg hk]

theorem putAt_congr (h : target.get? k = target'.get? k) :
    (target.putAt value (.entry k) rest).get? k = (target'.putAt value (.entry k) rest).get? k := by
  cases rest
  case nil =>
    cases value
    case table es =>
      simp only [putAt, put, get?_withEntry, if_pos, entryOrEmpty, h]
    all_goals simp only [putAt, put, get?_withEntry, if_pos]
  case cons => simp only [putAt, withChild, child, get?_withEntry, if_pos, h]

-- What stands under a key afterwards is determined by what stood there before.
theorem get?_putPath_congr (h : target.get? k = target'.get? k) :
    (target.putPath path value).get? k = (target'.putPath path value).get? k := by
  obtain ⟨name, rest, hs⟩ := exists_steps_eq path
  by_cases hk : name = k
  case pos =>
    rw [putPath, putPath, hs, hk]
    exact putAt_congr h
  case neg =>
    have hn : (steps path).1 ≠ .entry k := by simpa [hs] using hk
    rw [get?_putPath_of_ne hn, get?_putPath_of_ne hn, h]

-- Only those entries count for a key that lead there.
theorem get?_putPaths_filter {p : String × Setting → Bool}
    (hp : ∀ e ∈ entries, p e = false → (steps e.1.toList).1 ≠ .entry k)
    (h : target.get? k = target'.get? k) :
    (target.putPaths entries).get? k = (target'.putPaths (entries.filter p)).get? k := by
  induction entries generalizing target target'
  case nil => exact h
  case cons e entries hi =>
    rw [List.forall_mem_cons] at hp
    cases he : p e
    case false =>
      rw [List.filter_cons_of_neg (by simp [he])]
      exact hi hp.2 ((get?_putPath_of_ne (hp.1 he)).trans h)
    case true =>
      rw [List.filter_cons_of_pos he]
      exact hi hp.2 (get?_putPath_congr h)

theorem get?_putPaths_of_ne (h : ∀ e ∈ entries, (steps e.1.toList).1 ≠ .entry k) :
    (target.putPaths entries).get? k = target.get? k := by
  induction entries generalizing target
  case nil => rfl
  case cons e entries hi =>
    rw [List.forall_mem_cons] at h
    exact (hi h.2).trans (get?_putPath_of_ne h.1)

-- A key that stands in one place only, and to which no other key leads.
theorem get?_putPaths (hk : steps k.toList = (.entry k, []))
    (ha : ∀ e ∈ entries, (steps e.1.toList).1 = .entry k → e.1 = k)
    (hn : (entries.map (·.1)).Nodup) (hd : ∀ e ∈ entries, e.2.Distinct)
    (ht : target.get? k = none) :
    (target.putPaths entries).get? k = entries.lookup k := by
  induction entries generalizing target
  case nil => exact ht
  case cons e entries hi =>
    obtain ⟨key, v⟩ := e
    rw [List.forall_mem_cons] at ha hd
    rw [List.map_cons, List.nodup_cons] at hn
    change ((target.putPath key.toList v).putPaths entries).get? k = _
    by_cases he : key = k
    case pos =>
      subst he
      have hr : ∀ e ∈ entries, (steps e.1.toList).1 ≠ .entry key := fun e he hs =>
        hn.1 (List.mem_map.mpr ⟨e, he, ha.2 e he hs⟩)
      have hp : target.putPath key.toList v = target.withEntry key v := by
        rw [putPath, hk]
        exact put_of_distinct hd.1 ht
      rw [get?_putPaths_of_ne hr, hp, get?_withEntry, if_pos rfl, List.lookup_cons_self]
    case neg =>
      have hs : (steps key.toList).1 ≠ .entry k := fun hs => he (ha.1 hs)
      have hb : (k == key) = false := by simpa using Ne.symm he
      rw [hi ha.2 hn.2 hd.2 ((get?_putPath_of_ne hs).trans ht), List.lookup_cons, hb]

end Outbox.Setting

import Outbox.Proofs.Settings.Tree
/-!
Files of settings, in either format. Whatever a file holds, no table of the settings that it gives
has a key twice.
-/

namespace Outbox

namespace Setting

variable {s value : Setting} {k : String} {e : String × Setting}
  {es entries : List (String × Setting)}

theorem map_fst_replaceEntry :
    (replaceEntry k value es).map (·.1) =
      if k ∈ es.map (·.1) then es.map (·.1) else es.map (·.1) ++ [k] := by
  induction es
  case nil => rfl
  case cons d es hi =>
    by_cases hd : d.1 = k
    case pos => simp [replaceEntry, hd]
    case neg =>
      simp only [replaceEntry, if_neg hd, List.map_cons, hi, List.mem_cons, Ne.symm hd, false_or]
      split <;> rfl

theorem nodup_replaceEntry (h : (es.map (·.1)).Nodup) :
    ((replaceEntry k value es).map (·.1)).Nodup := by
  rw [map_fst_replaceEntry]
  split
  case isTrue => exact h
  case isFalse hk =>
    refine List.nodup_append.mpr ⟨h, by simp, fun a ha b hb he => ?_⟩
    exact hk (List.mem_singleton.mp hb ▸ he ▸ ha)

theorem mem_replaceEntry (h : e ∈ replaceEntry k value es) : e = (k, value) ∨ e ∈ es := by
  induction es
  case nil => exact .inl (List.mem_singleton.mp h)
  case cons d es hi =>
    unfold replaceEntry at h
    split at h
    case isTrue => exact (List.mem_cons.mp h).imp_right (.tail _)
    case isFalse =>
      cases h
      case head => exact .inr (.head _)
      case tail h => exact (hi h).imp_right (.tail _)

theorem distinct_lowered (h : ∀ e ∈ es, e.2.Distinct) : (table (lowered es)).Distinct := by
  have hf (ds acc : List (String × Setting)) (hd : ∀ e ∈ ds, e.2.Distinct)
      (ha : (table acc).Distinct) :
      (table (ds.foldl (fun es e => replaceEntry (lower e.1) e.2 es) acc)).Distinct := by
    induction ds generalizing acc
    case nil => exact ha
    case cons d ds hi =>
      rw [List.forall_mem_cons] at hd
      refine hi _ hd.2 (.intro (nodup_replaceEntry ha.nodup) fun e he => ?_)
      cases mem_replaceEntry he
      case inl he => exact he ▸ hd.1
      case inr he => exact ha.inner e he
  exact hf _ [] (fun e he => h e (List.mem_mergeSort.mp he)) (.of_entries_eq_nil rfl)

mutual

theorem distinct_ofJson : (v : Json.Value) → (ofJson v).Distinct
  | .null => .of_entries_eq_nil rfl
  | .bool _ => .of_entries_eq_nil rfl
  | .number (.integer i) => by
    rw [ofJson]
    split <;> exact .of_entries_eq_nil rfl
  | .number (.double _ _) => .of_entries_eq_nil rfl
  | .text _ => .of_entries_eq_nil rfl
  | .list _ => .of_entries_eq_nil rfl
  | .object members => distinct_lowered (distinct_ofJsonMembers members)

theorem distinct_ofJsonMembers :
    (ms : List (String × Json.Value)) → ∀ e ∈ ofJsonMembers ms, e.2.Distinct
  | [] => by simp [ofJsonMembers]
  | (_, v) :: ms => List.forall_mem_cons.mpr ⟨distinct_ofJson v, distinct_ofJsonMembers ms⟩

end

end Setting

namespace Toml

variable {s rest : List Char} {n : Setting} {i : Item}

theorem entries_of_based? {base : Nat} (h : based? base s = some (n, rest)) : n.entries = [] := by
  simp only [based?, Option.bind_eq_bind, Option.bind_eq_some_iff] at h
  obtain ⟨_, _, h⟩ := h
  split at h <;> cases h
  rfl

theorem entries_of_decimal? (h : decimal? s = some (n, rest)) : n.entries = [] := by
  simp only [decimal?, Option.bind_eq_bind, Option.bind_eq_some_iff] at h
  obtain ⟨_, _, _, _, _, _, h⟩ := h
  split at h
  case isTrue =>
    obtain ⟨_, _, h⟩ := Option.bind_eq_some_iff.mp h
    cases h
    rfl
  case isFalse =>
    obtain ⟨_, _, h⟩ := Option.bind_eq_some_iff.mp h
    split at h <;> cases h
    rfl

theorem entries_of_number? (h : number? s = some (n, rest)) : n.entries = [] := by
  unfold number? at h
  split at h
  case h_1 => exact entries_of_based? h
  case h_2 => exact entries_of_based? h
  case h_3 => exact entries_of_based? h
  case h_4 =>
    dsimp only at h
    split at h
    case h_1 =>
      cases h
      rfl
    case h_2 =>
      cases h
      rfl
    case h_3 => exact entries_of_decimal? h

-- Scalars of the item are no tables, apart from scalars in arrays.
inductive Item.Plain : Item → Prop
  | scalar {s : Setting} (h : s.entries = []) : Plain (.scalar s)
  | moment (m : Moment) : Plain (.moment m)
  | array (items : List Item) : Plain (.array items)
  | tables (items : List Item) : Plain (.tables items)
  | table (origin : Origin) {entries : List (String × Item)} (h : ∀ e ∈ entries, Plain e.2) :
      Plain (.table origin entries)

def Entries.Plain (entries : Entries) : Prop := ∀ e ∈ entries, e.2.Plain

namespace Entries

variable {entries entries' : Entries} {key last : String} {parents : List String}

theorem Plain.nil : Plain [] := fun _ h => absurd h List.not_mem_nil

theorem Plain.append (h : entries.Plain) (hi : i.Plain) : Plain (entries ++ [(key, i)]) := by
  intro e he
  rcases List.mem_append.mp he with he | he
  · exact h e he
  · cases List.mem_singleton.mp he
    exact hi

theorem Plain.replace (h : entries.Plain) (hi : i.Plain) : Plain (entries.replace key i) := by
  intro e he
  obtain ⟨d, hd, rfl⟩ := List.mem_map.mp he
  dsimp only
  split
  case isTrue => exact hi
  case isFalse => exact h d hd

theorem Plain.erase (h : entries.Plain) : Plain (entries.erase key) :=
  fun e he => h e (List.mem_filter.mp he).1

theorem Plain.of_lookup (h : entries.Plain) (hl : entries.lookup key = some i) : i.Plain := by
  obtain ⟨l₁, l₂, rfl, _⟩ := List.lookup_eq_some_iff.mp hl
  exact h (key, i) (by simp)

theorem Plain.of_table {origin : Origin} (h : Item.Plain (.table origin entries)) :
    entries.Plain := by
  cases h
  assumption

theorem Plain.assign? (h : entries.Plain) (hi : i.Plain)
    (ha : Entries.assign? last i parents entries = some entries') : entries'.Plain := by
  induction parents generalizing entries entries'
  case nil =>
    simp only [Entries.assign?, add?] at ha
    split at ha <;> cases ha
    exact h.append hi
  case cons key parents hp =>
    unfold Entries.assign? at ha
    split at ha
    case h_1 =>
      obtain ⟨inner, hin, he⟩ := Option.bind_eq_some_iff.mp ha
      cases he
      exact h.append (.table _ (hp .nil hin))
    case h_2 hl =>
      split at ha
      case isTrue =>
        obtain ⟨inner, hin, he⟩ := Option.bind_eq_some_iff.mp ha
        cases he
        exact h.replace (.table _ (hp (.of_table (h.of_lookup hl)) hin))
      case isFalse => cases ha
    case h_3 =>
      split at ha
      case h_1 =>
        split at ha
        case isTrue => cases ha
        case isFalse =>
          obtain ⟨inner, hin, he⟩ := Option.bind_eq_some_iff.mp ha
          cases he
          exact h.replace (.tables _)
      case h_2 => cases ha
    case h_4 => cases ha

theorem Plain.change? {f : Entries → Option Entries}
    (hf : ∀ {es es'}, Plain es → f es = some es' → Plain es') (h : entries.Plain)
    (hc : entries.change? f parents = some entries') : entries'.Plain := by
  induction parents generalizing entries entries'
  case nil => exact hf h hc
  case cons key parents hp =>
    unfold Entries.change? at hc
    split at hc
    case h_1 =>
      obtain ⟨inner, hin, he⟩ := Option.bind_eq_some_iff.mp hc
      cases he
      exact h.append (.table _ (hp .nil hin))
    case h_2 hl =>
      split at hc
      case isTrue => cases hc
      case isFalse =>
        obtain ⟨inner, hin, he⟩ := Option.bind_eq_some_iff.mp hc
        cases he
        exact h.replace (.table _ (hp (.of_table (h.of_lookup hl)) hin))
    case h_3 =>
      split at hc
      case h_1 =>
        obtain ⟨inner, hin, he⟩ := Option.bind_eq_some_iff.mp hc
        cases he
        exact h.replace (.tables _)
      case h_2 => cases hc
    case h_4 => cases hc

end Entries

section Reading

variable {item? : List Char → Option (Item × List Char)} {entries entries' : Entries} {path : Path}

theorem plain_of_plain? (h : plain? s = some (i, rest)) : i.Plain := by
  unfold plain? at h
  split at h
  case h_1 | h_2 =>
    obtain ⟨_, _, he⟩ := Option.map_eq_some_iff.mp h
    cases he
    exact .scalar rfl
  case h_3 | h_4 =>
    cases h
    exact .scalar rfl
  case h_5 =>
    split at h
    case h_1 =>
      cases h
      exact .moment _
    case h_2 =>
      obtain ⟨_, hn, he⟩ := Option.map_eq_some_iff.mp h
      cases he
      exact .scalar (entries_of_number? hn)

theorem plain_of_assignment? (hi : ∀ {s i rest}, item? s = some (i, rest) → i.Plain)
    (h : assignment? item? s = some (path, i, rest)) : i.Plain := by
  obtain ⟨⟨_, rest'⟩, _, h⟩ := Option.bind_eq_some_iff.mp h
  dsimp only at h
  split at h
  case h_1 =>
    obtain ⟨_, hin, he⟩ := Option.bind_eq_some_iff.mp h
    cases he
    exact hi hin
  case h_2 => cases h

theorem plain_of_entries? {room : Nat} (hi : ∀ {s i rest}, item? s = some (i, rest) → i.Plain)
    (hp : entries.Plain) (h : entries? item? room entries s = some (entries', rest)) :
    entries'.Plain := by
  induction room generalizing entries s
  case zero => cases h
  case succ room hr =>
    obtain ⟨⟨path, i, rest'⟩, ha, h⟩ := Option.bind_eq_some_iff.mp h
    obtain ⟨next, hn, h⟩ := Option.bind_eq_some_iff.mp h
    have hp := hp.assign? (plain_of_assignment? hi ha) hn
    split at h
    case h_1 =>
      cases h
      exact hp
    case h_2 => exact hr hp h
    case h_3 => cases h

theorem plain_of_item? {depth : Nat} (h : Toml.item? depth s = some (i, rest)) : i.Plain := by
  induction depth generalizing s i rest
  case zero =>
    unfold Toml.item? at h
    split at h
    case h_1 | h_2 => cases h
    case h_3 => exact plain_of_plain? h
  case succ depth hi =>
    unfold Toml.item? at h
    split at h
    case h_1 =>
      obtain ⟨_, _, he⟩ := Option.map_eq_some_iff.mp h
      cases he
      exact .array _
    case h_2 =>
      split at h
      case h_1 =>
        cases h
        exact .table _ Entries.Plain.nil
      case h_2 =>
        obtain ⟨_, hin, he⟩ := Option.map_eq_some_iff.mp h
        cases he
        exact .table _ (plain_of_entries? hi .nil hin)
    case h_3 => exact plain_of_plain? h

end Reading

section Documents

variable {entries entries' : Entries} {key : String}

def Statement.Plain : Statement → Prop
  | .assignment _ i => i.Plain
  | _               => True

theorem plain_of_statement? {x : Statement} (h : statement? s = some (x, rest)) : x.Plain := by
  unfold statement? at h
  split at h
  case h_1 | h_2 =>
    obtain ⟨⟨_, rest'⟩, _, h⟩ := Option.bind_eq_some_iff.mp h
    dsimp only at h
    split at h <;> cases h
    trivial
  case h_3 =>
    obtain ⟨⟨path, i, rest'⟩, ha, he⟩ := Option.map_eq_some_iff.mp h
    cases he
    exact plain_of_assignment? plain_of_item? ha

theorem plain_of_statements? {room : Nat} {xs : List Statement} (h : statements? room s = some xs) :
    ∀ x ∈ xs, x.Plain := by
  induction room generalizing s xs
  case zero =>
    unfold statements? at h
    split at h
    case h_1 =>
      cases h
      simp
    case h_2 => cases h
    case h_3 he _ => cases he
  case succ room hr =>
    unfold statements? at h
    split at h
    case h_1 =>
      cases h
      simp
    case h_2 he _ => cases he
    case h_3 he _ =>
      cases he
      split at h
      case isTrue =>
        obtain ⟨_, _, h⟩ := Option.bind_eq_some_iff.mp h
        exact hr h
      case isFalse =>
        obtain ⟨⟨x, _⟩, hx, h⟩ := Option.bind_eq_some_iff.mp h
        obtain ⟨xs, hxs, he⟩ := Option.bind_eq_some_iff.mp h
        obtain ⟨_, _, hxs⟩ := Option.bind_eq_some_iff.mp hxs
        cases he
        exact List.forall_mem_cons.mpr ⟨plain_of_statement? hx, hr hxs⟩

def ArePlain (assignments : List (Path × Item)) : Prop := ∀ a ∈ assignments, a.2.Plain

theorem arePlain_group {xs : List Statement} (h : ∀ x ∈ xs, x.Plain) :
    ArePlain (group xs).1 ∧ ∀ y ∈ (group xs).2, ArePlain y.assignments := by
  induction xs
  case nil => exact ⟨by simp [group, ArePlain], by simp [group]⟩
  case cons x xs hi =>
    rw [List.forall_mem_cons] at h
    obtain ⟨ho, hs⟩ := hi h.2
    cases x
    case assignment => exact ⟨List.forall_mem_cons.mpr ⟨h.1, ho⟩, hs⟩
    case table | further =>
      exact ⟨by simp [group, ArePlain], List.forall_mem_cons.mpr ⟨ho, hs⟩⟩

-- What every step keeps holds in the end, if no step fails.
theorem of_foldlM {α β : Type} {P : β → Prop} {f : β → α → Option β} {as : List α} {b b' : β}
    (hf : ∀ a ∈ as, ∀ {b b'}, P b → f b a = some b' → P b') (h : P b)
    (he : as.foldlM f b = some b') : P b' := by
  induction as generalizing b
  case nil =>
    cases he
    exact h
  case cons a as hi =>
    obtain ⟨next, hn, he⟩ := Option.bind_eq_some_iff.mp he
    rw [List.forall_mem_cons] at hf
    exact hi hf.2 (hf.1 h hn) he

theorem Entries.Plain.assignAll? {assignments : List (Path × Item)} (h : entries.Plain)
    (ha : ArePlain assignments) (he : entries.assignAll? assignments = some entries') :
    entries'.Plain :=
  of_foldlM (fun a hm {_ _} hb he => hb.assign? (ha a hm) he) h he

theorem Entries.Plain.addTable? {assignments : List (Path × Item)} (ha : ArePlain assignments)
    (h : entries.Plain) (he : addTable? assignments key entries = some entries') :
    entries'.Plain := by
  unfold Entries.addTable? at he
  split at he
  case h_1 =>
    obtain ⟨inner, hin, he⟩ := Option.bind_eq_some_iff.mp he
    cases he
    exact h.append (.table _ (Plain.nil.assignAll? ha hin))
  case h_2 hl =>
    obtain ⟨inner, hin, he⟩ := Option.bind_eq_some_iff.mp he
    cases he
    exact h.erase.append (.table _ ((of_table (h.of_lookup hl)).assignAll? ha hin))
  case h_3 => cases he

theorem Entries.Plain.addFurther? {assignments : List (Path × Item)} (h : entries.Plain)
    (he : addFurther? assignments key entries = some entries') :
    entries'.Plain := by
  obtain ⟨inner, _, he⟩ := Option.bind_eq_some_iff.mp he
  dsimp only at he
  split at he
  case h_1 =>
    cases he
    exact h.append (.tables _)
  case h_2 =>
    cases he
    exact h.replace (.tables _)
  case h_3 => cases he

theorem Section.plain_of_addTo? {x : Section} (ha : ArePlain x.assignments) (h : entries.Plain)
    (he : x.addTo? entries = some entries') : entries'.Plain := by
  unfold addTo? at he
  split at he
  case h_1 => exact h.change? (fun h he => h.addTable? ha he) he
  case h_2 => exact h.change? (fun h he => h.addFurther? he) he
  case h_3 => cases he

theorem plain_of_document? (h : document? s = some entries) : entries.Plain := by
  obtain ⟨xs, hs, h⟩ := Option.bind_eq_some_iff.mp h
  obtain ⟨start, ha, h⟩ := Option.bind_eq_some_iff.mp h
  have hg := arePlain_group (plain_of_statements? hs)
  exact of_foldlM (fun x hx {_ _} hb he => x.plain_of_addTo? (hg.2 x hx) hb he)
    (Entries.Plain.nil.assignAll? hg.1 ha) h

end Documents

theorem entries_of_embedded? {entries : Entries} {n : Setting}
    (h : embedded? entries = some (some n)) : n.entries = [] := by
  unfold embedded? at h
  split at h
  case h_1 =>
    split at h
    case isTrue =>
      obtain ⟨m, _, he⟩ := Option.map_eq_some_iff.mp (Option.some.inj h)
      exact he ▸ rfl
    case isFalse => cases h
  case h_2 => split at h <;> cases h
  case h_3 => cases h

theorem distinct_of_members? {entries : Entries} {members : List (String × Setting)}
    (hd : ∀ e ∈ entries, ∀ {n}, e.2.setting? = some n → n.Distinct)
    (h : members? entries = some members) : ∀ m ∈ members, m.2.Distinct := by
  induction entries generalizing members
  case nil =>
    cases h
    simp
  case cons e entries hi =>
    obtain ⟨n, hn, h⟩ := Option.bind_eq_some_iff.mp h
    obtain ⟨rest, hr, he⟩ := Option.bind_eq_some_iff.mp h
    cases he
    rw [List.forall_mem_cons] at hd
    exact List.forall_mem_cons.mpr ⟨hd.1 hn, hi hd.2 hr⟩

theorem Item.Plain.distinct (hp : i.Plain) (h : i.setting? = some n) : n.Distinct := by
  induction hp generalizing n
  case scalar hs =>
    cases h
    exact .of_entries_eq_nil hs
  case moment =>
    cases h
    exact .of_entries_eq_nil rfl
  case array | tables =>
    obtain ⟨_, _, he⟩ := Option.map_eq_some_iff.mp h
    cases he
    exact .of_entries_eq_nil rfl
  case table hi =>
    unfold Item.setting? at h
    split at h
    case h_1 he => exact .of_entries_eq_nil (entries_of_embedded? (he.trans (congrArg some h)))
    case h_2 =>
      obtain ⟨members, hm, he⟩ := Option.map_eq_some_iff.mp h
      cases he
      exact Setting.distinct_lowered (distinct_of_members? (fun e he {n} => hi e he) hm)

theorem distinct_of_parse? {text : String} {entries : List (String × Setting)}
    (h : parse? text = some entries) : (Setting.table entries).Distinct := by
  obtain ⟨document, hd, h⟩ := Option.bind_eq_some_iff.mp h
  obtain ⟨s, hs, h⟩ := Option.bind_eq_some_iff.mp h
  have hp : Item.Plain (.table .header document) := .table _ (plain_of_document? hd)
  split at h
  case h_1 =>
    cases h
    exact hp.distinct hs
  case h_2 => cases h

end Toml

theorem Settings.Format.distinct_of_entries? {format : Format} {text : String}
    {entries : List (String × Setting)} (h : format.entries? text = some entries) :
    (Setting.table entries).Distinct := by
  unfold entries? at h
  cases format
  case json =>
    dsimp only at h
    split at h
    case h_1 members _ =>
      cases h
      exact Setting.distinct_lowered (Setting.distinct_ofJsonMembers members)
    case h_2 => cases h
  case toml => exact Toml.distinct_of_parse? h

end Outbox

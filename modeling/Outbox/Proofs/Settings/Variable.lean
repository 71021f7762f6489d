import Outbox.Proofs.Settings.Tree
/-!
Variables whose names have two parts: a section and a key. Each one sets the key of that section to
what its text means, and of several for one key the last one stands.
-/

namespace Outbox

namespace Setting

variable {s target value : Setting} {path : String × String} {key rest : List Char}
  {name k : String} {room : Nat}

-- What a tree says of a key of a section.
def at? (s : Setting) (path : String × String) : Option Setting :=
  (s.get? path.1).bind (·.get? path.2)

theorem eq_of_name? (h : name? key = some (name, rest)) : key = name.toList ++ rest := by
  unfold name? at h
  dsimp only at h
  split at h
  case isTrue => cases h
  case isFalse =>
    cases h
    simp

theorem eq_nil_of_steps? (h : steps? room key = some []) : key = [] := by
  unfold steps? at h
  split at h
  case h_1 => rfl
  case h_3 => simp [Option.bind_eq_some_iff] at h
  case h_4 => simp [Option.bind_eq_some_iff] at h
  all_goals cases h

theorem item_of_position? {step : Step} (h : position? key = some (step, rest)) :
    ∃ i, step = .item i := by
  obtain ⟨i, _, h⟩ := Option.bind_eq_some_iff.mp h
  split at h <;> cases h
  exact ⟨i, rfl⟩

theorem eq_of_steps? (h : steps? room key = some [.entry k]) : key = '.' :: k.toList := by
  unfold steps? at h
  split at h
  case h_3 =>
    obtain ⟨⟨name, rest⟩, hn, h⟩ := Option.bind_eq_some_iff.mp h
    obtain ⟨steps, hs, he⟩ := Option.bind_eq_some_iff.mp h
    cases he
    rw [eq_of_name? hn, eq_nil_of_steps? hs, List.append_nil]
  case h_4 =>
    obtain ⟨⟨step, rest⟩, hp, h⟩ := Option.bind_eq_some_iff.mp h
    obtain ⟨steps, _, he⟩ := Option.bind_eq_some_iff.mp h
    obtain ⟨i, hi⟩ := item_of_position? hp
    rw [hi] at he
    cases he
  all_goals cases h

theorem eq_of_steps (h : steps key = (.entry path.1, [.entry path.2])) :
    key = path.1.toList ++ '.' :: path.2.toList := by
  unfold steps at h
  cases hn : name? key
  case none =>
    rw [hn] at h
    exact absurd (congrArg Prod.snd h) (List.cons_ne_nil _ _).symm
  case some p =>
    simp only [hn, bind, Option.bind] at h
    cases hs : steps? p.2.length p.2
    case none =>
      rw [hs] at h
      exact absurd (congrArg Prod.snd h) (List.cons_ne_nil _ _).symm
    case some steps =>
      simp only [hs, pure, Option.getD_some, Prod.mk.injEq, Step.entry.injEq] at h
      rw [h.2] at hs
      rw [eq_of_name? hn, eq_of_steps? hs, h.1]

-- The tree with another value for a key of a section.
def withKey (s : Setting) (path : String × String) (value : Setting) : Setting :=
  s.withEntry path.1 (((s.get? path.1).getD nil).withEntry path.2 value)

theorem at?_withKey (other : String × String) :
    (s.withKey path value).at? other = if other = path then some value else s.at? other := by
  rw [at?, withKey, get?_withEntry]
  by_cases hs : other.1 = path.1
  case neg =>
    have ho : other ≠ path := fun ho => hs (congrArg Prod.fst ho)
    rw [if_neg hs, if_neg ho, at?]
  case pos =>
    rw [if_pos hs, Option.bind_some, get?_withEntry]
    by_cases hk : other.2 = path.2
    case pos => rw [if_pos hk, if_pos (Prod.ext hs hk)]
    case neg =>
      have ho : other ≠ path := fun ho => hk (congrArg Prod.snd ho)
      rw [if_neg hk, if_neg ho, at?, hs]
      cases s.get? path.1 <;> rfl

-- Is a section a table, if it is there?
def GivesTable (s : Setting) (k : String) : Prop := ∀ v, s.get? k = some v → ∃ es, v = table es

theorem GivesTable.withKey (h : s.GivesTable k) : (s.withKey path value).GivesTable k := by
  intro v hv
  rw [Setting.withKey, get?_withEntry] at hv
  split at hv
  case isTrue =>
    cases hv
    exact ⟨_, rfl⟩
  case isFalse => exact h v hv

-- What a text means is never a table, so that it takes the place of what was there.
theorem put_ofText {isList : Bool} {text : String} :
    target.put k (ofText isList text) = target.withEntry k (ofText isList text) := by
  unfold ofText
  dsimp only
  split
  case isTrue => rfl
  case isFalse =>
    split
    case isTrue => rfl
    case isFalse =>
      split
      case h_1 | h_2 => rfl
      case h_3 => cases isList <;> rfl

theorem putPath_ofText {isList : Bool} {text : String}
    (h : steps key = (.entry path.1, [.entry path.2])) :
    target.putPath key (ofText isList text) = target.withKey path (ofText isList text) := by
  rw [putPath, h, withKey, ← put_ofText]
  rfl

end Setting

namespace Variable

variable {v : Variable} {vs : List Variable} {target : Setting} {path : String × String}

def listPath : String × String := ("publisher", "allowed_tables")

-- The section and the key that a variable sets, if its name has these two parts.
def path? (v : Variable) : Option (String × String) :=
  match v.key?.map Setting.steps with
  | some (.entry first, [.entry second]) => some (first, second)
  | _ => none

-- Does a variable set a key of a section, if it leads there?
def IsPlain (k : String) (v : Variable) : Prop :=
  ∀ key ∈ v.key?, (Setting.steps key).1 = .entry k → v.path? ≠ none

instance {k : String} : Decidable (v.IsPlain k) :=
  inferInstanceAs (Decidable (∀ key ∈ v.key?, _ → _))

-- What a variable says of a key of a section.
def says? (path : String × String) (v : Variable) : Option Setting :=
  if v.path? = some path then some (.ofText (path = listPath) v.value) else none

theorem exists_key?_of_path? (h : v.path? = some path) :
    ∃ key, v.key? = some key ∧ Setting.steps key = (.entry path.1, [.entry path.2]) := by
  unfold path? at h
  split at h
  case h_1 hs =>
    cases h
    exact Option.map_eq_some_iff.mp hs
  case h_2 => cases h

theorem setting_eq {key : List Char} (h : Setting.steps key = (.entry path.1, [.entry path.2])) :
    v.setting key = .ofText (path = listPath) v.value := by
  have hk : key ∈ listKeys ↔ path = listPath := by
    rw [listKeys, List.mem_singleton]
    constructor
    case mp =>
      intro he
      have hs : Setting.steps "publisher.allowed_tables".toList =
          (.entry listPath.1, [.entry listPath.2]) := by decide +kernel
      rw [he, hs] at h
      cases path
      cases h
      rfl
    case mpr =>
      intro he
      rw [Setting.eq_of_steps h, he]
      decide +kernel
  rw [setting, List.contains_eq_mem, decide_eq_decide.mpr hk]

theorem putInto_of_path? (h : v.path? = some path) :
    putInto target v = target.withKey path (.ofText (path = listPath) v.value) := by
  obtain ⟨key, hk, hs⟩ := exists_key?_of_path? h
  rw [putInto, hk]
  dsimp only
  rw [setting_eq hs, Setting.putPath_ofText hs]

theorem get?_putInto_of_path?_eq_none {k : String} (h : v.path? = none) (hv : v.IsPlain k) :
    (putInto target v).get? k = target.get? k := by
  unfold putInto
  split
  case h_1 key hk => exact Setting.get?_putPath_of_ne fun hs => hv key hk hs h
  case h_2 => rfl

theorem at?_putInto (h : v.IsPlain path.1) :
    (putInto target v).at? path = (v.says? path).or (target.at? path) := by
  rw [says?]
  cases hp : v.path?
  case none =>
    rw [Setting.at?, get?_putInto_of_path?_eq_none hp h, if_neg (by simp), Option.none_or,
      Setting.at?]
  case some own =>
    rw [putInto_of_path? hp, Setting.at?_withKey]
    by_cases he : path = own
    case pos => rw [if_pos he, if_pos (congrArg some he.symm), he, Option.some_or]
    case neg =>
      have ho : some own ≠ some path := fun ho => he (Option.some.inj ho).symm
      rw [if_neg he, if_neg ho, Option.none_or]

-- What is put last stands.
theorem at?_putAllInto (h : ∀ v ∈ vs, v.IsPlain path.1) :
    (putAllInto target vs).at? path =
      ((vs.filterMap (says? path)).getLast?).or (target.at? path) := by
  induction vs generalizing target
  case nil => rfl
  case cons v vs hi =>
    rw [List.forall_mem_cons] at h
    rw [putAllInto, List.foldl_cons, ← putAllInto, hi h.2, at?_putInto h.1]
    cases hv : v.says? path
    case none => rw [List.filterMap_cons_none hv, Option.none_or]
    case some value =>
      rw [List.filterMap_cons_some hv, List.getLast?_cons]
      cases (vs.filterMap (says? path)).getLast? <;> rfl

theorem exists_putAllInto_eq (h : ∃ es, target = .table es) :
    ∃ es, putAllInto target vs = .table es := by
  induction vs generalizing target
  case nil => exact h
  case cons v vs hi =>
    refine hi ?_
    unfold putInto
    split
    case h_1 => exact Setting.exists_putPath_eq_table
    case h_2 => exact h

theorem givesTable_putInto {k : String} (h : target.GivesTable k) (hv : v.IsPlain k) :
    (putInto target v).GivesTable k := by
  cases hp : v.path?
  case none => exact fun value he => h value (get?_putInto_of_path?_eq_none hp hv ▸ he)
  case some => exact (putInto_of_path? hp) ▸ h.withKey

theorem givesTable_putAllInto {k : String} (h : target.GivesTable k)
    (hv : ∀ v ∈ vs, v.IsPlain k) : (putAllInto target vs).GivesTable k := by
  induction vs generalizing target
  case nil => exact h
  case cons v vs hi =>
    rw [List.forall_mem_cons] at hv
    exact hi (givesTable_putInto h hv.1) hv.2

theorem get?_putInto_congr {k : String} {target' : Setting} (h : target.get? k = target'.get? k) :
    (putInto target v).get? k = (putInto target' v).get? k := by
  unfold putInto
  split
  case h_1 => exact Setting.get?_putPath_congr h
  case h_2 => exact h

theorem get?_putInto_of_ne {k : String} (h : v.path? = some path) (hk : path.1 ≠ k) :
    (putInto target v).get? k = target.get? k := by
  rw [putInto_of_path? h, Setting.withKey, Setting.get?_withEntry, if_neg hk.symm]

-- Only those variables count for a section that set a key of it.
theorem get?_putAllInto_filter {k : String} {target' : Setting} {p : Variable → Bool}
    (hp : ∀ v ∈ vs, p v = false → ∃ path, v.path? = some path ∧ path.1 ≠ k)
    (h : target.get? k = target'.get? k) :
    (putAllInto target vs).get? k = (putAllInto target' (vs.filter p)).get? k := by
  induction vs generalizing target target'
  case nil => exact h
  case cons v vs hi =>
    rw [List.forall_mem_cons] at hp
    cases hv : p v
    case false =>
      obtain ⟨path, hpath, hk⟩ := hp.1 hv
      rw [List.filter_cons_of_neg (by simp [hv])]
      exact hi hp.2 ((get?_putInto_of_ne hpath hk).trans h)
    case true =>
      rw [List.filter_cons_of_pos hv]
      exact hi hp.2 (get?_putInto_congr h)

end Variable

end Outbox

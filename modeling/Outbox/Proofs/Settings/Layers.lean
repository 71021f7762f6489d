import Outbox.Proofs.Settings.File
import Outbox.Proofs.Settings.Variable
import Outbox.Settings.Load
/-!
Settings from a file and from variables, place by place: each one is taken from the last source that
speaks of it, and depends on nothing else.
-/

namespace Outbox

namespace Setting.Dialect

variable {σ α : Type} {fields : List (Field Setting LoadError σ)} {acc s : σ}
  {es : List (String × Setting)} {say say' : String → Option Setting} {o : Option Setting}

-- What is read of what a source says, or else a default.
def ask (read : Setting → Except LoadError α) (default : α) : Option Setting → Except LoadError α
  | some v => read v
  | none   => .ok default

-- A record as it is said field by field.
def keyedBy (fields : List (Field Setting LoadError σ)) (acc : σ) (say : String → Option Setting) :
    Except LoadError σ :=
  fields.foldlM (fun acc field =>
    match say field.name with
    | some v => field.read v acc
    | none => if field.required then .error .mismatched else .ok acc) acc

theorem keyedBy_congr (h : ∀ f ∈ fields, say f.name = say' f.name) :
    keyedBy fields acc say = keyedBy fields acc say' := by
  induction fields generalizing acc
  case nil => rfl
  case cons f fields hi =>
    rw [List.forall_mem_cons] at h
    simp only [keyedBy, List.foldlM_cons, h.1]
    exact bind_congr fun acc => hi h.2

theorem keyedBy_none (h : ∀ f ∈ fields, f.required = false) :
    keyedBy fields acc (fun _ => none) = .ok acc := by
  induction fields
  case nil => rfl
  case cons f fields hi =>
    rw [List.forall_mem_cons] at h
    simp only [keyedBy, List.foldlM_cons, h.1]
    exact hi h.2

-- A default that stands in the record already.
theorem keyedBy_defaulted {name : String} {read : Setting → Except LoadError α} {set : α → σ → σ}
    {default : α} (h : set default acc = acc) :
    keyedBy (.defaulted name read set :: fields) acc say =
      ask read default (say name) >>= fun a => keyedBy fields (set a acc) say := by
  rw [keyedBy, List.foldlM_cons]
  cases hs : say name
  case none => simp only [Field.defaulted, hs, ask, h, keyedBy, bind, Except.bind]; rfl
  case some v =>
    simp only [Field.defaulted, hs, ask]
    cases read v <;> rfl

theorem ask_record (hf : ∀ f ∈ fields, f.required = false)
    (h : ∀ v, o = some v → ∃ es, v = .table es) :
    ask (record fields s) s o = keyedBy fields s fun k => o.bind (·.get? k) := by
  cases o
  case none => exact (keyedBy_none hf).symm
  case some v =>
    obtain ⟨es, rfl⟩ := h v rfl
    rfl

end Setting.Dialect

namespace Settings

open Setting (dialect LoadError GivesTable)
open Setting.Dialect (ask keyedBy)

-- What there is to load settings from: the entries of a file, and variables.
structure Sources where
  entries : List (String × Setting)
  vars    : List Variable

-- The outcome of loading from sources, with a file or without one.
inductive Loads : Sources → Except Error Settings → Prop
  | file {files : List File} {path : String} {f : File} {format : Format}
      {entries : List (String × Setting)} (hl : File.locate files path = .ok (f, format))
      (he : format.entries? f.text = some entries) (environment : List Variable)
      (dotenv : Option String) :
      Loads ⟨entries, completed environment dotenv⟩ (loadFromFile files path environment dotenv)
  | withoutFile (environment : List Variable) (dotenv : Option String) :
      Loads ⟨[], completed environment dotenv⟩ (load environment dotenv)

namespace Sources

variable {x y : Sources} {k : String} {path q : String × String}

-- Is a section given as a table, key by key? Nothing else of a file leads there.
structure GiveTable (x : Sources) (k : String) : Prop where
  table : ∀ v, x.entries.lookup k = some v → ∃ es, v = .table es
  alone : ∀ e ∈ x.entries, (Setting.steps e.1.toList).1 = .entry k → e.1 = k
  keys  : ∀ v ∈ x.vars, v.IsPlain k

-- What the last source says of a key of a section that speaks of it.
def said? (x : Sources) (path : String × String) : Option Setting :=
  (x.vars.filterMap (Variable.says? path)).getLast?.or
    ((x.entries.lookup path.1).bind (·.get? path.2))

-- Sources that differ in one key of one section at most.
structure AgreeApartFrom (q : String × String) (x y : Sources) : Prop where
  vars     : x.vars.filter (·.path? ≠ some q) = y.vars.filter (·.path? ≠ some q)
  sections : x.entries.filter (·.1 ≠ q.1) = y.entries.filter (·.1 ≠ q.1)
  keys     : ∀ k, k ≠ q.2 → (x.entries.lookup q.1).bind (·.get? k) =
    (y.entries.lookup q.1).bind (·.get? k)

def tree (x : Sources) : Setting :=
  Variable.putAllInto ((Setting.table []).putPaths x.entries) x.vars

theorem says_eq_none {v : Variable} (h : v.path? = some q) (hp : path ≠ q) :
    v.says? path = none := by
  rw [Variable.says?, h, if_neg fun he => hp (Option.some.inj he).symm]

theorem filterMap_says_filter {vs : List Variable} (hp : path ≠ q) :
    (vs.filter (·.path? ≠ some q)).filterMap (Variable.says? path) =
      vs.filterMap (Variable.says? path) := by
  rw [List.filterMap_filter]
  congr 1
  funext v
  by_cases hv : v.path? = some q
  case pos => simp [hv, says_eq_none hv hp]
  case neg => simp [hv]

theorem lookup_filter {entries : List (String × Setting)} {k' : String} (h : k ≠ k') :
    (entries.filter (·.1 ≠ k')).lookup k = entries.lookup k := by
  induction entries
  case nil => rfl
  case cons e entries hi =>
    obtain ⟨key, v⟩ := e
    by_cases he : key = k'
    case pos =>
      have hb : (k == key) = false := by simpa [he] using h
      rw [List.filter_cons_of_neg (by simp [he]), hi, List.lookup_cons, hb]
    case neg =>
      rw [List.filter_cons_of_pos (by simp [he]), List.lookup_cons, List.lookup_cons, hi]

theorem said?_congr (h : AgreeApartFrom q x y) (hp : path ≠ q) : x.said? path = y.said? path := by
  have hv : x.vars.filterMap (Variable.says? path) =
      y.vars.filterMap (Variable.says? path) := by
    rw [← filterMap_says_filter hp, h.vars, filterMap_says_filter hp]
  have he : (x.entries.lookup path.1).bind (·.get? path.2) =
      (y.entries.lookup path.1).bind (·.get? path.2) := by
    by_cases hs : path.1 = q.1
    case pos => exact hs ▸ h.keys path.2 fun hk => hp (Prod.ext hs hk)
    case neg => rw [← lookup_filter hs, h.sections, lookup_filter hs]
  rw [said?, said?, hv, he]

-- A section is determined by what leads there.
theorem get?_tree_congr (h : AgreeApartFrom q x y) (hq : q.1 ≠ k)
    (hk : (Setting.steps q.1.toList).1 ≠ .entry k) : x.tree.get? k = y.tree.get? k := by
  have he (z : Sources) : ((Setting.table []).putPaths z.entries).get? k =
      ((Setting.table []).putPaths (z.entries.filter (·.1 ≠ q.1))).get? k := by
    refine Setting.get?_putPaths_filter (fun e _ he => ?_) rfl
    rw [Classical.not_not.mp (of_decide_eq_false he)]
    exact hk
  have hf : ((Setting.table []).putPaths x.entries).get? k =
      ((Setting.table []).putPaths y.entries).get? k := by
    rw [he x, h.sections, ← he y]
  have hv (z : Sources) (v : Variable) (hz : decide (v.path? ≠ some q) = false) :
      ∃ path, v.path? = some path ∧ path.1 ≠ k :=
    ⟨q, Classical.not_not.mp (of_decide_eq_false hz), hq⟩
  calc x.tree.get? k
    _ = (Variable.putAllInto ((Setting.table []).putPaths y.entries)
          (x.vars.filter (·.path? ≠ some q))).get? k :=
      Variable.get?_putAllInto_filter (fun v _ => hv x v) hf
    _ = y.tree.get? k := by
      rw [h.vars]
      exact (Variable.get?_putAllInto_filter (fun v _ => hv y v) rfl).symm

theorem exists_tree_eq : ∃ es, x.tree = .table es :=
  Variable.exists_putAllInto_eq (Setting.exists_putPaths_eq ⟨[], rfl⟩)

def database (x : Sources) : Except LoadError (Option DatabaseSection) :=
  ask (dialect.optional (DatabaseSection.read dialect)) none (x.tree.get? "database")

def settings (x : Sources) : Except LoadError Settings := read dialect x.tree

theorem get?_putPaths (hd : (Setting.table x.entries).Distinct) (hk : x.GiveTable k)
    (hs : Setting.steps k.toList = (.entry k, [])) :
    ((Setting.table []).putPaths x.entries).get? k = x.entries.lookup k :=
  Setting.get?_putPaths hs hk.alone hd.nodup hd.inner rfl

theorem at?_tree (hd : (Setting.table x.entries).Distinct) (hk : x.GiveTable k)
    (hs : Setting.steps k.toList = (.entry k, [])) (key : String) :
    x.tree.at? (k, key) = x.said? (k, key) := by
  have hf : ((Setting.table []).putPaths x.entries).at? (k, key) =
      (x.entries.lookup k).bind (·.get? key) := by
    rw [Setting.at?, get?_putPaths hd hk hs]
  rw [said?, ← hf]
  exact Variable.at?_putAllInto hk.keys

theorem givesTable_tree (hd : (Setting.table x.entries).Distinct) (hk : x.GiveTable k)
    (hs : Setting.steps k.toList = (.entry k, [])) : GivesTable x.tree k :=
  Variable.givesTable_putAllInto (fun v hv => hk.table v (get?_putPaths hd hk hs ▸ hv)) hk.keys

-- A section whose fields all have defaults is read as it is said key by key.
theorem ask_section {σ : Type} {fields : List (Field Setting LoadError σ)} {start : σ}
    (hf : ∀ f ∈ fields, f.required = false) (hd : (Setting.table x.entries).Distinct)
    (hk : x.GiveTable k) (hs : Setting.steps k.toList = (.entry k, [])) :
    ask (Setting.Dialect.record fields start) start (x.tree.get? k) =
      keyedBy fields start fun key => x.said? (k, key) := by
  simp only [← at?_tree hd hk hs]
  exact Setting.Dialect.ask_record hf (givesTable_tree hd hk hs)

-- Sources with nothing unusual in the sections that are always read.
structure AreProper (x : Sources) : Prop where
  distinct  : (Setting.table x.entries).Distinct
  publisher : x.GiveTable "publisher"
  logging   : x.GiveTable "logging"

theorem settings_eq (h : x.AreProper) :
    x.settings = do
      let b ← x.database
      let p ← keyedBy (PublisherSection.fields dialect) {} fun k => x.said? ("publisher", k)
      let l ← keyedBy (LoggingSection.fields dialect) {} fun k => x.said? ("logging", k)
      return ⟨b, p, l⟩ := by
  have hp : ask (PublisherSection.read dialect) {} (x.tree.get? "publisher") =
      keyedBy (PublisherSection.fields dialect) {} fun k => x.said? ("publisher", k) :=
    ask_section (by simp [PublisherSection.fields, Field.defaulted]) h.distinct h.publisher
      (by decide +kernel)
  have hl : ask (LoggingSection.read dialect) {} (x.tree.get? "logging") =
      keyedBy (LoggingSection.fields dialect) {} fun k => x.said? ("logging", k) :=
    ask_section (by simp [LoggingSection.fields, Field.defaulted]) h.distinct h.logging
      (by decide +kernel)
  obtain ⟨es, he⟩ : ∃ es, x.tree = .table es := exists_tree_eq
  have hr : x.settings = keyedBy (fields dialect) {} x.tree.get? := by
    rw [settings, he]
    rfl
  rw [hr, fields, Setting.Dialect.keyedBy_defaulted rfl]
  refine bind_congr fun b => ?_
  rw [Setting.Dialect.keyedBy_defaulted rfl, hp]
  refine bind_congr fun p => ?_
  rw [Setting.Dialect.keyedBy_defaulted rfl, hl]
  rfl

end Sources

end Settings

end Outbox

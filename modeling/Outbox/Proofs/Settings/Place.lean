import Outbox.Proofs.Json.Scalar
import Outbox.Proofs.Settings.Layers
/-!
The settings that have defaults, each with its place. What is loaded holds at each place what the
last source says of it; the places are independent of one another, and of everything else.
-/

namespace Outbox.Settings

open Json (bind_eq_ok mapError_eq_ok)
open Setting (dialect LoadError)
open Setting.Dialect (ask keyedBy keyedBy_congr keyedBy_defaulted)

-- The settings in the sections of publishers and of the log.
inductive Place where
  | tableName
  | batchSize
  | maxRetries
  | backoffMillis
  | placeholderStyle
  | allowedTables
  | level
  | format
  deriving DecidableEq, Repr

namespace Place

def Value : Place → Type
  | tableName | level      => String
  | batchSize | maxRetries => Int
  | backoffMillis          => UInt64
  | placeholderStyle       => PlaceholderStyle
  | allowedTables          => List String
  | format                 => LogFormat

-- The section and the key of a setting.
def path : Place → String × String
  | tableName        => ("publisher", "table_name")
  | batchSize        => ("publisher", "batch_size")
  | maxRetries       => ("publisher", "max_retries")
  | backoffMillis    => ("publisher", "backoff_ms")
  | placeholderStyle => ("publisher", "placeholder_style")
  | allowedTables    => ("publisher", "allowed_tables")
  | level            => ("logging", "level")
  | format           => ("logging", "format")

-- The name of the variable for a setting.
def variableName : Place → String
  | tableName        => "OUTBOX__PUBLISHER__TABLE_NAME"
  | batchSize        => "OUTBOX__PUBLISHER__BATCH_SIZE"
  | maxRetries       => "OUTBOX__PUBLISHER__MAX_RETRIES"
  | backoffMillis    => "OUTBOX__PUBLISHER__BACKOFF_MS"
  | placeholderStyle => "OUTBOX__PUBLISHER__PLACEHOLDER_STYLE"
  | allowedTables    => "OUTBOX__PUBLISHER__ALLOWED_TABLES"
  | level            => "OUTBOX__LOGGING__LEVEL"
  | format           => "OUTBOX__LOGGING__FORMAT"

def read : (p : Place) → Setting → Except LoadError p.Value
  | tableName | level      => dialect.text
  | batchSize | maxRetries => dialect.signed64
  | backoffMillis          => dialect.word64
  | placeholderStyle       => dialect.choice PlaceholderStyle.names
  | allowedTables          => dialect.list dialect.text
  | format                 => dialect.choice LogFormat.names

def get (s : Settings) : (p : Place) → p.Value
  | tableName        => s.publisher.tableName
  | batchSize        => s.publisher.batchSize
  | maxRetries       => s.publisher.maxRetries
  | backoffMillis    => s.publisher.backoffMillis
  | placeholderStyle => s.publisher.placeholderStyle
  | allowedTables    => s.publisher.allowedTables
  | level            => s.logging.level
  | format           => s.logging.format

-- What is taken of what a source says, or else the default.
def taken (p : Place) (said : Option Setting) : Except LoadError p.Value :=
  ask p.read (p.get {}) said

theorem forall_iff {P : Place → Prop} :
    (∀ p, P p) ↔ P tableName ∧ P batchSize ∧ P maxRetries ∧ P backoffMillis ∧ P placeholderStyle ∧
      P allowedTables ∧ P level ∧ P format := by
  constructor
  case mp => exact fun h => ⟨h _, h _, h _, h _, h _, h _, h _, h _⟩
  case mpr =>
    rintro ⟨_, _, _, _, _, _, _, _⟩ p
    cases p <;> assumption

theorem path?_variableName (p : Place) (text : String) :
    (⟨p.variableName, text⟩ : Variable).path? = some p.path := by
  change (⟨p.variableName, ""⟩ : Variable).path? = some p.path
  cases p <;> decide +kernel

-- Whatever its value, the variable of a place speaks of that place.
theorem says?_variableName (p : Place) (text : String) :
    Variable.says? p.path ⟨p.variableName, text⟩ =
      some (.ofText (p = allowedTables) text) := by
  have hl : p.path = Variable.listPath ↔ p = allowedTables := by cases p <;> decide
  rw [Variable.says?, if_pos (path?_variableName p text), decide_eq_decide.mpr hl]

end Place

section Sections

variable {say say' : String → Option Setting}

theorem publisher_eq :
    keyedBy (PublisherSection.fields dialect) {} say = do
      let t ← Place.tableName.taken (say "table_name")
      let n ← Place.batchSize.taken (say "batch_size")
      let r ← Place.maxRetries.taken (say "max_retries")
      let b ← Place.backoffMillis.taken (say "backoff_ms")
      let s ← Place.placeholderStyle.taken (say "placeholder_style")
      let ts ← Place.allowedTables.taken (say "allowed_tables")
      return ⟨t, n, r, b, s, ts⟩ := by
  rw [PublisherSection.fields, keyedBy_defaulted rfl]
  refine bind_congr fun t => ?_
  rw [keyedBy_defaulted rfl]
  refine bind_congr fun n => ?_
  rw [keyedBy_defaulted rfl]
  refine bind_congr fun r => ?_
  rw [keyedBy_defaulted rfl]
  refine bind_congr fun b => ?_
  rw [keyedBy_defaulted rfl]
  refine bind_congr fun s => ?_
  rw [keyedBy_defaulted rfl]
  rfl

theorem logging_eq :
    keyedBy (LoggingSection.fields dialect) {} say = do
      let l ← Place.level.taken (say "level")
      let f ← Place.format.taken (say "format")
      return ⟨l, f⟩ := by
  rw [LoggingSection.fields, keyedBy_defaulted rfl]
  refine bind_congr fun l => ?_
  rw [keyedBy_defaulted rfl]
  rfl

end Sections

namespace Sources

variable {x y : Sources} {s : Settings} {q : String × String}

theorem settings_eq_ok_iff (h : x.AreProper) :
    x.settings = .ok s ↔
      x.database = .ok s.database ∧ ∀ p : Place, p.taken (x.said? p.path) = .ok (p.get s) := by
  rw [settings_eq h, publisher_eq, logging_eq, Place.forall_iff]
  simp only [bind_eq_ok]
  constructor
  case mp =>
    rintro ⟨b, hb, p, ⟨_, h₁, _, h₂, _, h₃, _, h₄, _, h₅, _, h₆, hp⟩, l, ⟨_, h₇, _, h₈, hl⟩, hs⟩
    cases hp
    cases hl
    cases hs
    exact ⟨hb, h₁, h₂, h₃, h₄, h₅, h₆, h₇, h₈⟩
  case mpr =>
    rintro ⟨hb, h₁, h₂, h₃, h₄, h₅, h₆, h₇, h₈⟩
    exact ⟨_, hb, _, ⟨_, h₁, _, h₂, _, h₃, _, h₄, _, h₅, _, h₆, rfl⟩, _, ⟨_, h₇, _, h₈, rfl⟩, rfl⟩

-- What is well said everywhere is loaded.
theorem exists_settings (h : x.AreProper) (hb : ∃ b, x.database = .ok b)
    (hp : ∀ p : Place, ∃ a, p.taken (x.said? p.path) = .ok a) : ∃ s, x.settings = .ok s := by
  obtain ⟨b, hb⟩ := hb
  obtain ⟨a, ha⟩ := Classical.skolem.mp hp
  have hs : ∀ p : Place, p.get ⟨b, ⟨a .tableName, a .batchSize, a .maxRetries, a .backoffMillis,
      a .placeholderStyle, a .allowedTables⟩, ⟨a .level, a .format⟩⟩ = a p := by
    intro p
    cases p <;> rfl
  exact ⟨_, (settings_eq_ok_iff h).mpr ⟨hb, fun p => (hs p) ▸ ha p⟩⟩

theorem path_of_publisher_field :
    ∀ f ∈ PublisherSection.fields dialect, ∃ p : Place, p.path = ("publisher", f.name) := by
  simp only [PublisherSection.fields, List.forall_mem_cons]
  exact ⟨⟨.tableName, rfl⟩, ⟨.batchSize, rfl⟩, ⟨.maxRetries, rfl⟩, ⟨.backoffMillis, rfl⟩,
    ⟨.placeholderStyle, rfl⟩, ⟨.allowedTables, rfl⟩, by simp⟩

theorem path_of_logging_field :
    ∀ f ∈ LoggingSection.fields dialect, ∃ p : Place, p.path = ("logging", f.name) := by
  simp only [LoggingSection.fields, List.forall_mem_cons]
  exact ⟨⟨.level, rfl⟩, ⟨.format, rfl⟩, by simp⟩

theorem keyedBy_said?_congr {σ : Type} {fields : List (Field Setting LoadError σ)} {acc : σ}
    {k : String} (hf : ∀ f ∈ fields, ∃ p : Place, p.path = (k, f.name))
    (hp : ∀ p : Place, x.said? p.path = y.said? p.path) :
    keyedBy fields acc (fun key => x.said? (k, key)) =
      keyedBy fields acc fun key => y.said? (k, key) := by
  refine keyedBy_congr fun f hm => ?_
  obtain ⟨p, hpath⟩ := hf f hm
  exact hpath ▸ hp p

-- Apart from the database, nothing but the places counts.
theorem settings_congr (hx : x.AreProper) (hy : y.AreProper) (hb : x.database = y.database)
    (hp : ∀ p : Place, x.said? p.path = y.said? p.path) : x.settings = y.settings := by
  rw [settings_eq hx, settings_eq hy, hb, keyedBy_said?_congr path_of_publisher_field hp,
    keyedBy_said?_congr path_of_logging_field hp]

theorem steps_database : Setting.steps "database".toList = (.entry "database", []) := by
  decide +kernel

theorem database_congr (h : AgreeApartFrom q x y)
    (hq : (Setting.steps q.1.toList).1 ≠ .entry "database") : x.database = y.database := by
  have hk : q.1 ≠ "database" := fun hk => hq (hk ▸ congrArg Prod.fst steps_database)
  rw [database, database, get?_tree_congr h hk hq]

def urlPath : String × String := ("database", "url")

-- Where the address of a database is said, the section is read as it is said key by key.
theorem database_eq (hd : (Setting.table x.entries).Distinct) (hk : x.GiveTable "database")
    (hu : x.said? urlPath ≠ none) :
    x.database =
      (keyedBy (DatabaseSection.fields dialect) {} fun k => x.said? ("database", k)).map some := by
  have hg := givesTable_tree hd hk steps_database
  rw [urlPath] at hu
  simp only [← at?_tree hd hk steps_database, Setting.at?] at hu ⊢
  cases ho : x.tree.get? "database"
  case none =>
    rw [ho] at hu
    exact absurd rfl hu
  case some v =>
    obtain ⟨es, rfl⟩ := hg v ho
    rw [database, ho]
    rfl

-- Where the address is said, keys that the section does not know do not count.
theorem database_congr_of_said? (h : AgreeApartFrom q x y) (hx : x.AreProper) (hy : y.AreProper)
    (hkx : x.GiveTable "database") (hky : y.GiveTable "database") (hu : x.said? urlPath ≠ none)
    (hq : ∀ f ∈ DatabaseSection.fields dialect, ("database", f.name) ≠ q) :
    x.database = y.database := by
  let say (z : Sources) (k : String) : Option Setting := z.said? ("database", k)
  have hs : ∀ f ∈ DatabaseSection.fields dialect, say x f.name = say y f.name :=
    fun f hf => said?_congr h (hq f hf)
  have hf : keyedBy (DatabaseSection.fields dialect) {} (say x) =
      keyedBy (DatabaseSection.fields dialect) {} (say y) := keyedBy_congr hs
  have huy : x.said? urlPath = y.said? urlPath := hs _ (.head _)
  rw [database_eq hx.distinct hkx hu, database_eq hy.distinct hky (huy ▸ hu)]
  exact congrArg (Except.map some) hf

end Sources

namespace Loads

variable {x : Sources} {r : Except Error Settings} {s : Settings}

theorem eq (h : Loads x r) : r = x.settings.mapError .load := by
  cases h
  case file hl he environment dotenv =>
    rw [loadFromFile, File.putInto, hl]
    simp only [bind, Except.bind, he]
    rfl
  case withoutFile => rfl

theorem distinct (h : Loads x r) : (Setting.table x.entries).Distinct := by
  cases h
  case file he _ _ => exact Format.distinct_of_entries? he
  case withoutFile => exact .of_entries_eq_nil rfl

theorem eq_ok_iff (h : Loads x r) : r = .ok s ↔ x.settings = .ok s := by
  rw [h.eq, mapError_eq_ok]

end Loads

-- Without a file of variables, the variables are those of the environment.
theorem completed_none {environment : List Variable} (h : (environment.map (·.name)).Nodup) :
    completed environment none = environment := by
  have hf (vs acc : List Variable) (h : ((acc ++ vs).map (·.name)).Nodup) :
      vs.foldl Variable.set acc = acc ++ vs := by
    induction vs generalizing acc
    case nil => rw [List.foldl_nil, List.append_nil]
    case cons v vs hi =>
      have hv : acc.any (·.name == v.name) = false := by
        rw [List.map_append, List.nodup_append] at h
        rw [List.any_eq_false]
        intro w hw he
        exact h.2.2 _ (List.mem_map.mpr ⟨w, hw, rfl⟩) v.name (by simp) (eq_of_beq he)
      have hs : Variable.set acc v = acc ++ [v] := by rw [Variable.set, hv]; rfl
      rw [List.foldl_cons, hs, hi _ (by simpa using h), List.append_assoc, List.singleton_append]
  exact hf environment [] h

-- A key that no section has.
def IsUnknown (q : String × String) : Prop :=
  (∀ p : Place, p.path ≠ q) ∧ ∀ f ∈ DatabaseSection.fields dialect, ("database", f.name) ≠ q

-- Loading from sources that give the sections of publishers and of the log as tables.
theorem loaded_from_last_source {x : Sources} {r : Except Error Settings} (h : Loads x r)
    (hp : x.GiveTable "publisher") (hl : x.GiveTable "logging") :
    -- Each setting is what the last source says of it, or else its default.
    (∀ s, r = .ok s ↔
      x.database = .ok s.database ∧ ∀ p : Place, p.taken (x.said? p.path) = .ok (p.get s)) ∧
    -- There are settings if all that is said of them, and of the database, can be read.
    ((∃ b, x.database = .ok b) → (∀ p : Place, ∃ a, p.taken (x.said? p.path) = .ok a) →
      ∃ s, r = .ok s) ∧
    (∀ y r' q, Loads y r' → y.GiveTable "publisher" → y.GiveTable "logging" →
      Sources.AgreeApartFrom q x y →
      -- What is said of one key changes no other setting.
      (∀ s s', r = .ok s → r' = .ok s' → (∀ p : Place, p.path ≠ q → p.get s = p.get s') ∧
        ((Setting.steps q.1.toList).1 ≠ .entry "database" → s.database = s'.database)) ∧
      -- What is said of an unknown key changes nothing at all. In the section for a database, which
      -- cannot be read without an address, that is so if the address is said.
      (IsUnknown q →
        (Setting.steps q.1.toList).1 ≠ .entry "database" ∨
          x.GiveTable "database" ∧ y.GiveTable "database" ∧ x.said? Sources.urlPath ≠ none →
        r = r')) ∧
    -- Each setting has a variable of its own. Of all texts only that of the tables is a list.
    (∀ (p : Place) (text : String), Variable.says? p.path ⟨p.variableName, text⟩ =
      some (.ofText (p = .allowedTables) text)) ∧
    -- The variables are those of the environment, if there is no file of variables.
    (∀ environment : List Variable, (environment.map (·.name)).Nodup →
      completed environment none = environment) := by
  have hx : x.AreProper := ⟨h.distinct, hp, hl⟩
  have hr (s : Settings) : r = .ok s ↔
      x.database = .ok s.database ∧ ∀ p : Place, p.taken (x.said? p.path) = .ok (p.get s) :=
    h.eq_ok_iff.trans (Sources.settings_eq_ok_iff hx)
  refine ⟨hr, fun hb ha => ?_, fun y r' q h' hp' hl' hq => ?_, Place.says?_variableName,
    fun environment => completed_none⟩
  · obtain ⟨s, hs⟩ := Sources.exists_settings hx hb ha
    exact ⟨s, h.eq_ok_iff.mpr hs⟩
  have hy : y.AreProper := ⟨h'.distinct, hp', hl'⟩
  constructor
  case left =>
    intro s s' hs hs'
    obtain ⟨hb, ha⟩ := (hr s).mp hs
    obtain ⟨hb', ha'⟩ := (Sources.settings_eq_ok_iff hy).mp (h'.eq_ok_iff.mp hs')
    constructor
    case left =>
      intro p hpq
      have he := ha p
      rw [Sources.said?_congr hq hpq, ha' p] at he
      exact (Except.ok.inj he).symm
    case right =>
      intro hk
      rw [Sources.database_congr hq hk, hb'] at hb
      exact (Except.ok.inj hb).symm
  case right =>
    intro hu hb
    have hd : x.database = y.database := by
      rcases hb with hk | ⟨hkx, hky, hurl⟩
      · exact Sources.database_congr hq hk
      · exact Sources.database_congr_of_said? hq hx hy hkx hky hurl hu.2
    have hs : x.settings = y.settings :=
      Sources.settings_congr hx hy hd fun p => Sources.said?_congr hq (hu.1 p)
    rw [h.eq, h'.eq, hs]

-- A file with two settings, of which a variable changes one.
def layeredFile : File := ⟨"outbox.toml", "[publisher]\nbatch_size = 7\nmax_retries = 9\n"⟩

def layeredEntries : List (String × Setting) :=
  [("publisher", .table [("batch_size", .integer 7), ("max_retries", .integer 9)])]

-- Entries that are in order already need not be sorted.
theorem lowered_of_pairwise {es : List (String × Setting)}
    (h : es.Pairwise fun x y => !decide (y.1 < x.1)) :
    Setting.lowered es =
      es.foldl (fun acc e => Setting.replaceEntry (Setting.lower e.1) e.2 acc) [] := by
  rw [Setting.lowered, List.mergeSort_of_pairwise h]

theorem entries?_layeredFile : Format.toml.entries? layeredFile.text = some layeredEntries := by
  let inner : Toml.Entries :=
    [("batch_size", .scalar (.integer 7)), ("max_retries", .scalar (.integer 9))]
  have hd : Toml.document? (Text.dropMark layeredFile.text.toList) =
      some [("publisher", .table .header inner)] := rfl
  have hs : Toml.Item.setting? (.table .header [("publisher", .table .header inner)]) =
      some (.table (Setting.lowered [("publisher",
        .table (Setting.lowered [("batch_size", .integer 7), ("max_retries", .integer 9)]))])) :=
    rfl
  rw [lowered_of_pairwise (by decide), lowered_of_pairwise (by decide)] at hs
  rw [Format.entries?, Toml.parse?, hd]
  simp only [bind, Option.bind, hs]
  rfl

def layeredVariables : List Variable :=
  [⟨"OUTBOX__PUBLISHER__MAX_RETRIES", "0"⟩, ⟨"OUTBOX__PUBLISHER__ALLOWED_TABLES", "a,b"⟩]

def unknownVariable : Variable := ⟨"OUTBOX__PUBLISHER__COLOUR", "red"⟩

theorem loaded_from_last_source_layered :
    loadFromFile [layeredFile] "outbox" layeredVariables none =
      .ok { publisher := { batchSize := 7, maxRetries := 0, allowedTables := ["a", "b"] } } ∧
    loadFromFile [layeredFile] "outbox" layeredVariables none =
      loadFromFile [layeredFile] "outbox" (unknownVariable :: layeredVariables) none := by
  have hf : File.locate [layeredFile] "outbox" = .ok (layeredFile, .toml) := by decide +kernel
  have he : Format.toml.entries? layeredFile.text = some layeredEntries := entries?_layeredFile
  have hp : Sources.GiveTable ⟨layeredEntries, completed layeredVariables none⟩ "publisher" :=
    ⟨fun _ hv => ⟨_, (Option.some.inj hv).symm⟩, by decide +kernel, by decide +kernel⟩
  have hn : layeredEntries.lookup "logging" = none := rfl
  have hl : Sources.GiveTable ⟨layeredEntries, completed layeredVariables none⟩ "logging" :=
    ⟨fun v hv => absurd (hn.symm.trans hv) (by simp), by decide +kernel, by decide +kernel⟩
  have hx := loaded_from_last_source (.file hf he layeredVariables none) hp hl
  constructor
  case left =>
    refine (hx.1 _).mpr ⟨rfl, Place.forall_iff.mpr ?_⟩
    exact ⟨rfl, rfl, rfl, rfl, rfl, rfl, rfl, rfl⟩
  case right =>
    have hu : IsUnknown ("publisher", "colour") :=
      ⟨fun p => by cases p <;> decide, fun f _ => by simp⟩
    have hq := hx.2.2.1 _ _ ("publisher", "colour")
      (.file hf he (unknownVariable :: layeredVariables) none)
      ⟨hp.table, hp.alone, by decide +kernel⟩ ⟨hl.table, hl.alone, by decide +kernel⟩
      ⟨by decide +kernel, rfl, fun _ _ => rfl⟩
    exact hq.2 hu (.inl (by decide +kernel))

def unknownDatabaseVariable : Variable := ⟨"OUTBOX__DATABASE__COLOUR", "red"⟩

-- An unknown key alone makes a section for a database, which has no address then.
theorem load_fails_on_unknown_key :
    unknownDatabaseVariable.path? = some ("database", "colour") ∧
    IsUnknown ("database", "colour") ∧
    load [] none = .ok {} ∧ load [unknownDatabaseVariable] none = .error (.load .mismatched) := by
  refine ⟨by decide +kernel, ⟨fun p => by cases p <;> decide, ?_⟩, by decide +kernel,
    by decide +kernel⟩
  simp [DatabaseSection.fields, Field.defaulted, Field.mandatory]

end Outbox.Settings

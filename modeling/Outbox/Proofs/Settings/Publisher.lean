import Outbox.Proofs.Json.Scalar
import Outbox.Proofs.Statement
import Outbox.Proofs.Table.Verdict
import Outbox.Settings.Basic
import Outbox.Settings.Setting
/-!
Settings of a publisher and the configuration that is made of them. Settings pass their check if and
only if a publisher can be set up with them, and both fail for the same reason.
-/

namespace Outbox

open Text (trim lowercase)

namespace Publisher

variable {o : Options} {c : Config} {e : ConfigError}

theorem Config.ofOptions_eq_ok_iff :
    ofOptions o = .ok c ↔ o.batchSize ≠ 0 ∧ o.table = .ok c.table ∧
      c.batchSize = o.batchSize.toNat ∧ c.maxRetries = o.maxRetries ∧
      c.backoffUnit = o.backoffUnit ∧ c.placeholderStyle = o.placeholderStyle := by
  cases c
  unfold ofOptions
  split
  case isTrue h => simp [h]
  case isFalse h =>
    split
    case h_1 r ht => simp [ht]
    case h_2 name ht => simp [ht, h, eq_comm]

theorem Config.ofOptions_eq_error_iff (hb : o.batchSize ≠ 0) :
    ofOptions o = .error e ↔ ∃ r, o.table = .error r ∧ e = .invalidTableName r := by
  cases ht : o.table <;> simp [ofOptions, hb, ht, eq_comm]

end Publisher

namespace Settings

open Publisher (Options Config ConfigError)

namespace PublisherSection

variable {p : PublisherSection} {o : Options} {e : ConfigError}

-- The options that settings ask for, whether or not their numbers are in range.
def asked (p : PublisherSection) : Options where
  tableName        := p.tableName
  batchSize        := .ofNat p.batchSize.toNat
  maxRetries       := .ofNat (min p.maxRetries.toNat greatestRetries)
  backoffUnit      := .ofMillis p.backoffMillis
  placeholderStyle := p.placeholderStyle
  allowedTables    := if p.allowedTables.isEmpty then none else some p.allowedTables

theorem toOptions_eq_ok_iff :
    p.toOptions = .ok o ↔ 0 < p.batchSize ∧ 0 ≤ p.maxRetries ∧ o = p.asked := by
  unfold toOptions
  split
  case isTrue h => exact ⟨nofun, fun ⟨hb, _⟩ => absurd h (Int.not_le.mpr hb)⟩
  case isFalse h =>
    split
    case isTrue h' => exact ⟨nofun, fun ⟨_, hm, _⟩ => absurd h' (Int.not_lt.mpr hm)⟩
    case isFalse h' =>
      rw [Except.ok.injEq, eq_comm]
      exact ⟨fun ho => ⟨Int.not_le.mp h, Int.not_lt.mp h', ho⟩, fun ho => ho.2.2⟩

theorem toOptions_eq_error_iff :
    p.toOptions = .error e ↔
      p.batchSize ≤ 0 ∧ e = .nonPositiveBatchSize p.batchSize ∨
      0 < p.batchSize ∧ p.maxRetries < 0 ∧ e = .negativeMaxRetries p.maxRetries := by
  unfold toOptions
  split
  case isTrue h => simp [h, Int.not_lt.mpr h, eq_comm]
  case isFalse h =>
    split
    case isTrue h' => simp [h, h', Int.not_le.mp h, eq_comm]
    case isFalse h' => simp [h, h']

theorem toNat_batchSize_asked (hb : 0 < p.batchSize) (hg : p.batchSize ≤ Setting.greatestInteger) :
    (p.asked.batchSize.toNat : Int) = p.batchSize := by
  have hg : p.batchSize ≤ 0x7fffffffffffffff := hg
  simp only [asked, UInt64.toNat_ofNat', Nat.reducePow]
  omega

theorem toNat_maxRetries_asked (hm : 0 ≤ p.maxRetries) :
    (p.asked.maxRetries.toNat : Int) = min p.maxRetries 0xffffffff := by
  simp only [asked, greatestRetries, UInt32.toNat_ofNat', Nat.reducePow]
  omega

theorem nanos_backoffUnit_asked :
    p.asked.backoffUnit.nanos = p.backoffMillis.toNat * 1000000 := by
  have hl : Time.Duration.longest.nanos = 0x10000000000000000 * 1000000000 - 1 := rfl
  have := p.backoffMillis.toNat_lt
  simp only [asked, Time.Duration.ofMillis, Time.Duration.nanos_ofNanos, Time.nanosPerMilli, hl]
  omega

theorem table_asked :
    p.asked.table = if p.allowedTables = [] then Table.Name.parse p.tableName
      else Table.Name.parseAllowed p.tableName p.allowedTables := by
  by_cases h : p.allowedTables = [] <;> simp [asked, Options.table, h]

theorem exists_table_asked_iff :
    (∃ name, p.asked.table = .ok name) ↔
      Table.InLanguage (trim p.tableName.toList) ∧ (p.allowedTables = [] ∨
        ∃ a ∈ p.allowedTables,
          lowercase (trim a.toList) = lowercase (trim p.tableName.toList)) := by
  rw [← Table.Name.exists_parse_iff, table_asked]
  constructor
  case mp =>
    intro ⟨name, h⟩
    split at h
    case isTrue he => exact ⟨⟨name, h⟩, .inl he⟩
    case isFalse =>
      have ⟨hp, ha⟩ := Table.Name.parseAllowed_eq_ok_iff.mp h
      have ht := Table.Name.toList_text_of_parse hp
      exact ⟨⟨name, hp⟩, .inr (ht ▸ Table.Name.listed_iff.mp ha)⟩
  case mpr =>
    intro ⟨⟨name, hp⟩, ha⟩
    split
    case isTrue => exact ⟨name, hp⟩
    case isFalse he =>
      have ha := ha.resolve_left he
      rw [← Table.Name.toList_text_of_parse hp] at ha
      exact ⟨name, Table.Name.parseAllowed_eq_ok_iff.mpr ⟨hp, Table.Name.listed_iff.mpr ha⟩⟩

theorem batchSize_asked_ne_zero (hb : 0 < p.batchSize)
    (hg : p.batchSize ≤ Setting.greatestInteger) : p.asked.batchSize ≠ 0 := by
  intro hz
  have h := toNat_batchSize_asked hb hg
  rw [hz] at h
  exact absurd hb (by simp [← h])

theorem exists_config_iff (hg : p.batchSize ≤ Setting.greatestInteger) :
    (∃ o c, p.toOptions = .ok o ∧ Config.ofOptions o = .ok c) ↔
      0 < p.batchSize ∧ 0 ≤ p.maxRetries ∧ ∃ name, p.asked.table = .ok name := by
  constructor
  case mp =>
    intro ⟨o, c, ho, hc⟩
    obtain ⟨hb, hm, rfl⟩ := toOptions_eq_ok_iff.mp ho
    exact ⟨hb, hm, c.table, (Config.ofOptions_eq_ok hc).1⟩
  case mpr =>
    intro ⟨hb, hm, name, ht⟩
    have ⟨c, hc⟩ := Config.exists_ofOptions (batchSize_asked_ne_zero hb hg) ht
    exact ⟨p.asked, c, toOptions_eq_ok_iff.mpr ⟨hb, hm, rfl⟩, hc⟩

theorem validate_eq_ok_iff :
    p.validate = .ok () ↔ ∃ o c, p.toOptions = .ok o ∧ Config.ofOptions o = .ok c := by
  unfold validate toConfig
  cases p.toOptions
  case error => simp [bind, Except.bind]
  case ok o => cases h : Config.ofOptions o <;> simp [bind, Except.bind, h]

theorem validate_eq_error_iff {d : Defect} :
    p.validate = .error d ↔ ∃ e, d = .publisher e ∧
      (p.toOptions = .error e ∨ ∃ o, p.toOptions = .ok o ∧ Config.ofOptions o = .error e) := by
  unfold validate toConfig
  cases p.toOptions
  case error => simp [bind, Except.bind, eq_comm]
  case ok o => cases h : Config.ofOptions o <;> simp [bind, Except.bind, h, eq_comm]

end PublisherSection

theorem publisher_validate_of_validate {s : Settings} (h : s.validate = .ok ()) :
    s.publisher.validate = .ok () := by
  have hp : ∀ r : Except Defect Unit,
      (do r; s.publisher.validate; s.logging.validate) = .ok () →
        s.publisher.validate = .ok () := by
    intro r h
    cases r
    case error => cases h
    case ok =>
      cases hv : s.publisher.validate
      case error => simp [hv, bind, Except.bind] at h
      case ok => rfl
  unfold validate at h
  cases hd : s.database <;> rw [hd] at h
  case none => exact hp (.ok ()) h
  case some b => exact hp b.validate h

theorem publisherOptions_eq_ok_iff {s : Settings} {o : Options} :
    s.publisherOptions = .ok o ↔ s.publisher.toOptions = .ok o := by
  rw [publisherOptions, Json.mapError_eq_ok]

namespace PublisherSection

-- Checking settings and setting up a publisher with them. The bound is the greatest number that
-- settings can have.
theorem validate_iff_publisher (p : PublisherSection)
    (hb : p.batchSize ≤ Setting.greatestInteger) :
    -- Settings are valid if and only if options and then a configuration can be made of them.
    (p.validate = .ok () ↔ ∃ o c, p.toOptions = .ok o ∧ Config.ofOptions o = .ok c) ∧
    -- That is so if both numbers are in range and the name of the table is acceptable. Only a list
    -- of tables that is not empty restricts the name further.
    (p.validate = .ok () ↔ 0 < p.batchSize ∧ 0 ≤ p.maxRetries ∧
      Table.InLanguage (trim p.tableName.toList) ∧
      (p.allowedTables = [] ∨
        ∃ a ∈ p.allowedTables, lowercase (trim a.toList) = lowercase (trim p.tableName.toList))) ∧
    -- The configuration has the numbers of the settings.
    (∀ o c, p.toOptions = .ok o → Config.ofOptions o = .ok c →
      c.table.text.toList = trim p.tableName.toList ∧
      (c.batchSize : Int) = p.batchSize ∧ 1 ≤ c.batchSize ∧
      (c.maxRetries.toNat : Int) = min p.maxRetries 0xffffffff ∧
      c.backoffUnit.nanos = p.backoffMillis.toNat * 1000000 ∧
      c.placeholderStyle = p.placeholderStyle) ∧
    -- Otherwise the check finds what the first of the two steps fails with that does fail.
    (∀ d, p.validate = .error d ↔ ∃ e, d = .publisher e ∧
      (p.toOptions = .error e ∨ ∃ o, p.toOptions = .ok o ∧ Config.ofOptions o = .error e)) ∧
    -- It is the first of three reasons.
    (∀ d, p.validate = .error d ↔
      p.batchSize ≤ 0 ∧ d = .publisher (.nonPositiveBatchSize p.batchSize) ∨
      0 < p.batchSize ∧ p.maxRetries < 0 ∧ d = .publisher (.negativeMaxRetries p.maxRetries) ∨
      0 < p.batchSize ∧ 0 ≤ p.maxRetries ∧ ∃ r,
        (if p.allowedTables = [] then Table.Name.parse p.tableName
          else Table.Name.parseAllowed p.tableName p.allowedTables) = .error r ∧
        d = .publisher (.invalidTableName r)) ∧
    -- The check of all settings includes this one.
    ∀ s : Settings, s.publisher = p → s.validate = .ok () →
      ∃ o c, s.publisherOptions = .ok o ∧ Config.ofOptions o = .ok c := by
  refine ⟨validate_eq_ok_iff, ?_, fun o c ho hc => ?_, fun _ => validate_eq_error_iff,
    fun d => ?_, fun s hs h => ?_⟩
  case refine_1 =>
    rw [validate_eq_ok_iff, exists_config_iff hb, exists_table_asked_iff]
  case refine_2 =>
    obtain ⟨hp, hm, rfl⟩ := toOptions_eq_ok_iff.mp ho
    have ⟨_, ht, hbs, hmr, hbu, hps⟩ := Config.ofOptions_eq_ok_iff.mp hc
    have hbs : (c.batchSize : Int) = p.batchSize := by
      rw [hbs, toNat_batchSize_asked hp hb]
    have htext : c.table.text.toList = trim p.asked.tableName.toList := Options.text_table ht
    refine ⟨htext, hbs, by omega, ?_, ?_, hps⟩
    case refine_1 => rw [hmr, toNat_maxRetries_asked hm]
    case refine_2 => rw [hbu, nanos_backoffUnit_asked]
  case refine_3 =>
    rw [validate_eq_error_iff]
    constructor
    case mp =>
      rintro ⟨e, rfl, he | ⟨o, ho, he⟩⟩
      case inl =>
        obtain ⟨hp, rfl⟩ | ⟨hp, hm, rfl⟩ := toOptions_eq_error_iff.mp he
        · exact .inl ⟨hp, rfl⟩
        · exact .inr (.inl ⟨hp, hm, rfl⟩)
      case inr =>
        obtain ⟨hp, hm, rfl⟩ := toOptions_eq_ok_iff.mp ho
        obtain ⟨r, ht, rfl⟩ :=
          (Config.ofOptions_eq_error_iff (batchSize_asked_ne_zero hp hb)).mp he
        exact .inr (.inr ⟨hp, hm, r, table_asked ▸ ht, rfl⟩)
    case mpr =>
      rintro (⟨hp, rfl⟩ | ⟨hp, hm, rfl⟩ | ⟨hp, hm, r, ht, rfl⟩)
      · exact ⟨_, rfl, .inl (toOptions_eq_error_iff.mpr (.inl ⟨hp, rfl⟩))⟩
      · exact ⟨_, rfl, .inl (toOptions_eq_error_iff.mpr (.inr ⟨hp, hm, rfl⟩))⟩
      · have he := (Config.ofOptions_eq_error_iff (batchSize_asked_ne_zero hp hb)).mpr
          ⟨r, table_asked.trans ht, rfl⟩
        exact ⟨_, rfl, .inr ⟨p.asked, toOptions_eq_ok_iff.mpr ⟨hp, hm, rfl⟩, he⟩⟩
  case refine_4 =>
    subst hs
    simp only [publisherOptions_eq_ok_iff]
    exact validate_eq_ok_iff.mp (publisher_validate_of_validate h)

theorem validate_iff_publisher_many_retries :
    let p : PublisherSection :=
      { tableName := " Outbox_Events ", batchSize := 25, maxRetries := 0x100000000,
        allowedTables := ["audit", " OUTBOX_EVENTS"] }
    p.batchSize ≤ Setting.greatestInteger ∧ ∃ o c, p.toOptions = .ok o ∧
      Config.ofOptions o = .ok c ∧ c.table.text.toList = "Outbox_Events".toList ∧
      (c.batchSize : Int) = 25 ∧ (c.maxRetries.toNat : Int) = 0xffffffff := by
  intro p
  have hb : p.batchSize ≤ Setting.greatestInteger := by decide
  have ⟨hv, hi, hc, _⟩ := validate_iff_publisher p hb
  have hn : Table.nameRefusal? (trim p.tableName.toList) = none := by decide +kernel
  have hl : ∃ a ∈ p.allowedTables,
      lowercase (trim a.toList) = lowercase (trim p.tableName.toList) := by decide +kernel
  have hp : p.validate = .ok () :=
    hi.mpr ⟨by decide, by decide, Table.nameRefusal?_eq_none_iff.mp hn, .inr hl⟩
  have ⟨o, c, ho, hc'⟩ := hv.mp hp
  have ⟨ht, hs, _, hm, _⟩ := hc o c ho hc'
  have htrim : trim p.tableName.toList = "Outbox_Events".toList := by decide +kernel
  have hmin : min p.maxRetries 0xffffffff = 0xffffffff := by decide
  exact ⟨hb, o, c, ho, hc', ht.trans htrim, hs, hm.trans hmin⟩

end PublisherSection

end Settings

end Outbox

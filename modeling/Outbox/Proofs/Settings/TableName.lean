import Outbox.Proofs.Settings.Place
import Outbox.Proofs.Settings.Publisher
import Outbox.Proofs.Table.Injection
/-!
The name of a table in a variable. It is what a publisher writes to, unless it reads as a truth
value or as a number without digits: then it comes back in the one way in which those are written.
-/

namespace Outbox

namespace Decimal

variable {c : Char} {s : List Char}

theorem not_isDigit_of_isAlpha (h : c.isAlpha) : c.isDigit = false := by
  have hc : c.toNat < 128 := Text.toNat_lt_of_isAlphanum (by rw [Char.isAlphanum, h, Bool.true_or])
  exact Text.forall_ascii (P := fun c => c.isAlpha → c.isDigit = false) (by decide) hc h

theorem natural?_of_isAlpha (h : c.isAlpha) : natural? (c :: s) = none := by
  simp [natural?, not_isDigit_of_isAlpha h]

theorem integer?_of_isAlpha {least greatest : Int} (h : c.isAlpha) :
    integer? least greatest (c :: s) = none := by
  unfold integer?
  split
  case h_1 he =>
    cases he
    exact absurd h (by decide)
  case h_2 he =>
    cases he
    exact absurd h (by decide)
  case h_3 => rw [natural?_of_isAlpha h]; rfl

namespace Double

theorem decimal?_of_isAlpha {negative : Bool} (h : c.isAlpha) :
    decimal? negative (c :: s) = none := by
  have hd := not_isDigit_of_isAlpha h
  have hp : c ≠ '.' := by
    rintro rfl
    exact absurd h (by decide)
  simp [decimal?, hd, hp]

-- A text that begins with a letter is a number only if it is the name of one.
theorem parse?_of_isAlpha (h : c.isAlpha) :
    parse? (c :: s) =
      if String.ofList ((c :: s).map Char.toLower) ∈ infinityNames then some (infinite false)
      else if String.ofList ((c :: s).map Char.toLower) = "nan" then some nan
      else none := by
  unfold parse?
  split
  case h_1 he =>
    cases he
    exact absurd h (by decide)
  case h_2 he =>
    cases he
    exact absurd h (by decide)
  case h_3 => simp only [unsigned?, decimal?_of_isAlpha h, List.contains_iff_mem]

end Double

end Decimal

namespace Table

theorem isAlpha_of_inLanguage {c : Char} {s : List Char} (h : InLanguage (c :: s)) : c.isAlpha := by
  have hd : isDotted (c :: s) := isDotted_iff.mpr h.segments
  have hw : ∃ w ∈ Text.splitAt '.' (c :: s), w = [] ∨ ∃ piece, w = c :: piece := by
    unfold Text.splitAt
    split
    case isTrue => exact ⟨[], .head _, .inl rfl⟩
    case isFalse =>
      split
      case h_1 piece _ _ => exact ⟨c :: piece, .head _, .inr ⟨piece, rfl⟩⟩
      case h_2 => exact ⟨[c], .head _, .inr ⟨[], rfl⟩⟩
  obtain ⟨w, hw, he⟩ := hw
  obtain ⟨d, rest, hc, hd, _⟩ := isWord_iff.mp (List.all_eq_true.mp hd w hw)
  obtain rfl | ⟨piece, rfl⟩ := he
  · cases hc
  · cases hc
    exact hd

end Table

namespace Settings

open Publisher (Options Config)

-- What the name of a table in a variable is read as.
def readBack (t : String) : String :=
  if Setting.lower t = "true" then "true"
  else if Setting.lower t = "false" then "false"
  else if Setting.lower t ∈ Decimal.Double.infinityNames then "inf"
  else if Setting.lower t = "nan" then "NaN"
  else t

theorem text_ofText (name : Table.Name) :
    Setting.Dialect.text (.ofText false name.text) = .ok (readBack name.text) := by
  have hl := name.inLanguage
  have ha : Text.lowercase name.text.toList = name.text.toList.map Char.toLower :=
    Text.lowercase_ascii fun _ => Table.Name.toNat_lt_of_mem
  unfold Setting.ofText readBack Setting.lower
  dsimp only
  cases ht : name.text.toList
  case nil => exact absurd (ht ▸ hl.length_pos) (by simp)
  case cons c s =>
    have hc : c.isAlpha := Table.isAlpha_of_inLanguage (ht ▸ hl)
    rw [Decimal.integer?_of_isAlpha hc, Decimal.Double.parse?_of_isAlpha hc, ← ht, ha]
    split
    case isTrue => rfl
    case isFalse =>
      split
      case isTrue => rfl
      case isFalse =>
        by_cases hi : String.ofList (name.text.toList.map Char.toLower) ∈
            Decimal.Double.infinityNames
        case pos =>
          rw [if_pos hi, if_pos hi]
          rfl
        case neg =>
          rw [if_neg hi, if_neg hi]
          by_cases hn : String.ofList (name.text.toList.map Char.toLower) = "nan"
          case pos =>
            rw [if_pos hn, if_pos hn]
            rfl
          case neg =>
            rw [if_neg hn, if_neg hn]
            rfl

variable {t : String} {name : Table.Name}

-- Sources with the one variable.
def named (t : String) : Sources := ⟨[], [⟨Place.tableName.variableName, t⟩]⟩

theorem said?_named : (named t).said? Place.tableName.path = some (.ofText false t) := by
  rw [Sources.said?, named, List.filterMap_cons_some (Place.says?_variableName .tableName t)]
  rfl

theorem said?_named_of_ne {path : String × String} (h : path ≠ Place.tableName.path) :
    (named t).said? path = none := by
  have hv := Sources.says_eq_none (Place.path?_variableName .tableName t) h
  rw [Sources.said?, named, List.filterMap_cons_none hv]
  rfl

theorem giveTable_named {k : String} : (named t).GiveTable k where
  table _ h := absurd h (by simp [named])
  alone _ h := absurd h (by simp [named])
  keys v h  := by
    cases List.mem_singleton.mp h
    intro _ _ _
    rw [Place.path?_variableName .tableName t]
    exact Option.some_ne_none _

theorem database_named : (named t).database = .ok none := by
  have hk : (named t).tree.get? "database" = none :=
    Variable.get?_putInto_of_ne (Place.path?_variableName .tableName t) (by decide)
  rw [Sources.database, hk]
  rfl

theorem load_tableName (name : Table.Name) :
    load [⟨Place.tableName.variableName, name.text⟩] none =
      .ok { publisher := { tableName := readBack name.text } } := by
  have h : Loads (named name.text) (load [⟨Place.tableName.variableName, name.text⟩] none) :=
    .withoutFile [⟨Place.tableName.variableName, name.text⟩] none
  have hx : (named name.text).AreProper := ⟨h.distinct, giveTable_named, giveTable_named⟩
  refine h.eq_ok_iff.mpr ((Sources.settings_eq_ok_iff hx).mpr ⟨database_named, fun p => ?_⟩)
  by_cases hp : p = .tableName
  case pos =>
    subst hp
    rw [said?_named]
    exact text_ofText name
  case neg =>
    have hn : p.path ≠ Place.tableName.path := by
      cases p
      case tableName => exact absurd rfl hp
      all_goals decide
    rw [said?_named_of_ne hn]
    cases p
    case tableName => exact absurd rfl hp
    all_goals rfl

-- The texts that are read as something else, in lower case.
def spellings : List String := ["true", "false", "inf", "infinity", "nan"]

theorem readBack_of_not_mem (h : Setting.lower t ∉ spellings) : readBack t = t := by
  simp only [spellings, List.mem_cons, List.not_mem_nil, or_false, not_or] at h
  simp [readBack, h, Decimal.Double.infinityNames]

-- How truth values and numbers without digits are written.
def writtenForms : List String := ["true", "false", "inf", "NaN"]

theorem readBack_mem (h : Setting.lower t ∈ spellings) : readBack t ∈ writtenForms := by
  simp only [spellings, List.mem_cons, List.not_mem_nil, or_false] at h
  rcases h with h | h | h | h | h
  all_goals simp [readBack, h, Decimal.Double.infinityNames, writtenForms]

theorem readBack_eq_iff : readBack t = t ↔ Setting.lower t ∉ spellings ∨ t ∈ writtenForms := by
  constructor
  case mp =>
    intro h
    by_cases hs : Setting.lower t ∈ spellings
    case pos => exact .inr (h ▸ readBack_mem hs)
    case neg => exact .inl hs
  case mpr =>
    rintro (h | h)
    case inl => exact readBack_of_not_mem h
    case inr => exact (by decide +kernel : ∀ t ∈ writtenForms, readBack t = t) t h

theorem exists_parse_readBack (h : ∃ name, Table.Name.parse t = .ok name ∧ name.text = t) :
    ∃ name, Table.Name.parse (readBack t) = .ok name ∧ name.text = readBack t := by
  by_cases hs : Setting.lower t ∈ spellings
  case pos =>
    have hw : ∀ w ∈ writtenForms,
        Text.trim w.toList = w.toList ∧ Table.nameRefusal? w.toList = none := by decide +kernel
    have hr := hw _ (readBack_mem hs)
    exact Table.Name.exists_parse_of_trimmed hr.1 hr.2
  case neg => rwa [readBack_of_not_mem hs]

theorem exists_config_of_options (h : Table.Name.parse t = .ok name) (ht : name.text = t)
    {o : Options} (ho : o.tableName = t) (ha : o.allowedTables = none) (hb : o.batchSize ≠ 0) :
    ∃ c, Config.ofOptions o = .ok c ∧ c.table.text = t := by
  have hp : o.table = .ok name := by rw [Options.table, ha, ho, h]
  obtain ⟨c, hc⟩ := Config.exists_ofOptions hb hp
  have hn : o.table = .ok c.table := (Config.ofOptions_eq_ok hc).1
  exact ⟨c, hc, ht ▸ congrArg Table.Name.text (Except.ok.inj (hn.symm.trans hp))⟩

-- A publisher can be set up with a table alone, under the name that is accepted for it.
theorem exists_config_of_tableName (h : ∃ name, Table.Name.parse t = .ok name ∧ name.text = t) :
    ∃ o c, publisherOptions { publisher := { tableName := t } } = .ok o ∧
      Config.ofOptions o = .ok c ∧ c.table.text = t := by
  obtain ⟨name, h, ht⟩ := h
  let p : PublisherSection := { tableName := t }
  have hb : 0 < p.batchSize := (by decide : (0 : Int) < Publisher.defaultBatchSize.toNat)
  have hm : 0 ≤ p.maxRetries := (by decide : (0 : Int) ≤ Publisher.defaultMaxRetries.toNat)
  have hg : p.batchSize ≤ Setting.greatestInteger :=
    (by decide : (Publisher.defaultBatchSize.toNat : Int) ≤ Setting.greatestInteger)
  have ho : p.toOptions = .ok p.asked := PublisherSection.toOptions_eq_ok_iff.mpr ⟨hb, hm, rfl⟩
  have hc : ∃ c, Config.ofOptions p.asked = .ok c ∧ c.table.text = t :=
    exists_config_of_options h ht rfl rfl (PublisherSection.batchSize_asked_ne_zero hb hg)
  obtain ⟨c, hc⟩ := hc
  exact ⟨p.asked, c, publisherOptions_eq_ok_iff.mpr ho, hc⟩

-- A variable with a text that is accepted for a table as it stands.
theorem publisher_table_of_variable (h : Table.Name.parse t = .ok name) (ht : name.text = t) :
    -- A publisher can be set up with it, and writes to the table that the text is read as.
    (∃ s o c, load [⟨"OUTBOX__PUBLISHER__TABLE_NAME", t⟩] none = .ok s ∧
      s.publisherOptions = .ok o ∧ Config.ofOptions o = .ok c ∧ c.table.text = readBack t) ∧
    -- That is the table of the text, apart from the other spellings of five texts.
    (readBack t = t ↔ Setting.lower t ∉ spellings ∨ t ∈ writtenForms) ∧
    -- In options the text stands for its own table.
    (∀ o : Options, o.tableName = t → o.allowedTables = none → o.batchSize ≠ 0 →
      ∃ c, Config.ofOptions o = .ok c ∧ c.table.text = t) := by
  have hl := load_tableName name
  rw [ht] at hl
  obtain ⟨o, c, ho, hc, hn⟩ := exists_config_of_tableName (exists_parse_readBack ⟨name, h, ht⟩)
  exact ⟨⟨_, o, c, hl, ho, hc, hn⟩, readBack_eq_iff, fun _ => exists_config_of_options h ht⟩

theorem publisher_table_of_variable_unchanged :
    ∃ s o c, load [⟨"OUTBOX__PUBLISHER__TABLE_NAME", "Orders.True"⟩] none = .ok s ∧
      s.publisherOptions = .ok o ∧ Config.ofOptions o = .ok c ∧ c.table.text = "Orders.True" := by
  obtain ⟨name, h, ht⟩ : ∃ name, Table.Name.parse "Orders.True" = .ok name ∧
      name.text = "Orders.True" :=
    Table.Name.exists_parse_of_trimmed (by decide +kernel) (by decide +kernel)
  have hx := publisher_table_of_variable h ht
  have hr : readBack "Orders.True" = "Orders.True" := hx.2.1.mpr (.inl (by decide +kernel))
  exact hr ▸ hx.1

-- The name of a number is a name of a table too, and becomes the name of another one.
theorem publisher_table_of_variable_infinity :
    ∃ name, Table.Name.parse "Infinity" = .ok name ∧ name.text = "Infinity" ∧
      ∃ s o c, load [⟨"OUTBOX__PUBLISHER__TABLE_NAME", "Infinity"⟩] none = .ok s ∧
        s.publisherOptions = .ok o ∧ Config.ofOptions o = .ok c ∧ c.table.text = "inf" := by
  obtain ⟨name, h, ht⟩ : ∃ name, Table.Name.parse "Infinity" = .ok name ∧ name.text = "Infinity" :=
    Table.Name.exists_parse_of_trimmed (by decide +kernel) (by decide +kernel)
  have hr : readBack "Infinity" = "inf" := by decide +kernel
  have hl := load_tableName name
  rw [ht, hr] at hl
  have hp : ∃ name, Table.Name.parse "inf" = .ok name ∧ name.text = "inf" :=
    hr ▸ exists_parse_readBack ⟨name, h, ht⟩
  obtain ⟨o, c, ho, hc, hn⟩ := exists_config_of_tableName hp
  exact ⟨name, h, ht, _, o, c, hl, ho, hc, hn⟩

end Settings

end Outbox

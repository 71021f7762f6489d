import Outbox.Proofs.Table.Language
import Outbox.Publisher.Config
/-!
The statement that messages are written with. The table is written into it, yet it can be told from
what follows it; and columns, placeholders and arguments are aligned.
-/

namespace Outbox

open Text (trim)

namespace Message

variable {m m' : Message}

theorem eq_of_argument_eq (h : ∀ a, m.argument a = m'.argument a) : m = m' := by
  cases m
  cases m'
  rw [Message.mk.injEq]
  exact ⟨Argument.text.inj (h .eventId), Argument.text.inj (h .eventTopic),
    Argument.text.inj (h .eventDomain), Argument.text.inj (h .eventType),
    Argument.text.inj (h .objectType), Argument.nullableText.inj (h .producer),
    Argument.nullableText.inj (h .correlationId), Argument.json.inj (h .payload),
    Argument.json.inj (h .metadata), Argument.timestamp.inj (h .createdAt)⟩

theorem arguments_injective : Function.Injective arguments := fun _ _ h =>
  eq_of_argument_eq fun a => List.map_inj_left.mp h a a.mem_all

end Message

namespace Statement

variable {table table' : Table.Name} {style style' : PlaceholderStyle}

-- What follows the table in a statement, behind a space.
def behindTable (style : PlaceholderStyle) : String :=
  "(" ++ ", ".intercalate Message.columns ++ ") VALUES ("
    ++ ", ".intercalate (placeholders style) ++ ")"

-- The text between the first words of a statement and the next space.
def tableOf (statement : String) : List Char :=
  (statement.toList.drop "INSERT INTO ".length).takeWhile (· ≠ ' ')

theorem toList_insert :
    (insert table style).toList =
      "INSERT INTO ".toList ++ (table.text.toList ++ ' ' :: (behindTable style).toList) := by
  have h : " (".toList = ' ' :: "(".toList := by decide
  delta insert behindTable
  simp only [String.toList_append, List.append_assoc, h, List.cons_append]

-- No name has a space.
theorem tableOf_insert : tableOf (insert table style) = table.text.toList := by
  have h : ∀ c ∈ table.text.toList, decide (c ≠ ' ') := by
    rintro c hc
    refine decide_eq_true ?_
    rintro rfl
    exact absurd (Table.Name.isNameChar_of_mem hc) (by decide)
  rw [tableOf, toList_insert, ← String.length_toList, List.drop_left,
    List.takeWhile_append_of_pos h, List.takeWhile_cons_of_neg (by decide), List.append_nil]

theorem behindTable_injective : Function.Injective behindTable := by
  have h : behindTable .dollar ≠ behindTable .question := by decide +kernel
  intro style style' he
  cases style <;> cases style'
  case dollar.question => exact absurd he h
  case question.dollar => exact absurd he.symm h
  all_goals rfl

theorem insert_eq_iff :
    insert table style = insert table' style' ↔ table.text = table'.text ∧ style = style' := by
  constructor
  case mp =>
    intro h
    have ht : table.text.toList = table'.text.toList := by
      rw [← tableOf_insert, h, tableOf_insert]
    have hl := congrArg String.toList h
    rw [toList_insert, toList_insert, List.append_cancel_left_eq, ht, List.append_cancel_left_eq,
      List.cons.injEq] at hl
    exact ⟨String.toList_injective ht, behindTable_injective (String.toList_injective hl.2)⟩
  case mpr =>
    intro ⟨ht, hs⟩
    exact String.toList_injective (by rw [toList_insert, toList_insert, ht, hs])

theorem getElem?_placeholders {k : Nat} (h : k < Message.columns.length) :
    (placeholders style)[k]? = some (style.placeholder (k + 1)) := by
  simp [placeholders, h]

end Statement

namespace Publisher

variable {o : Options} {c : Config}

-- A list of allowed tables does not change a name.
theorem Options.text_table {name : Table.Name} (h : o.table = .ok name) :
    name.text.toList = trim o.tableName.toList := by
  have hp : Table.Name.parse o.tableName = .ok name := by
    unfold Options.table at h
    split at h
    case h_1 =>
      cases hp : Table.Name.parse o.tableName
      case error => simp [Table.Name.parseAllowed, hp, bind, Except.bind] at h
      case ok name' =>
        simp only [Table.Name.parseAllowed, hp, bind, Except.bind] at h
        split at h <;> cases h
        rfl
    case h_2 => exact h
  rw [(Table.Name.parse_eq_ok_iff.mp hp).2, String.toList_ofList]

theorem Config.ofOptions_eq_ok (h : Config.ofOptions o = .ok c) :
    o.table = .ok c.table ∧ c.placeholderStyle = o.placeholderStyle := by
  unfold Config.ofOptions at h
  split at h
  case isTrue => cases h
  case isFalse =>
    split at h <;> cases h
    case h_2 ht => exact ⟨ht, rfl⟩

theorem Config.exists_ofOptions {name : Table.Name} (hb : o.batchSize ≠ 0)
    (ht : o.table = .ok name) : ∃ c, Config.ofOptions o = .ok c := by
  simp [Config.ofOptions, hb, ht]

-- The statement of a publisher that is set up with options. What is written into it is a name and
-- nothing else, and what is bound to it is bound where it belongs.
theorem statement_splices_safely (h : Config.ofOptions o = .ok c) :
    -- The table is the one that the options name, apart from blanks around it.
    c.table.text.toList = trim o.tableName.toList ∧
    c.placeholderStyle = o.placeholderStyle ∧
    -- It is written into the statement, and is what stands before the next space.
    c.statement = "INSERT INTO " ++ c.table.text ++ " (" ++ ", ".intercalate Message.columns
      ++ ") VALUES (" ++ ", ".intercalate (Statement.placeholders c.placeholderStyle) ++ ")" ∧
    (c.statement.toList.drop "INSERT INTO ".length).takeWhile (· ≠ ' ') = c.table.text.toList ∧
    -- Statements differ if and only if tables or styles do.
    (∀ c' : Config, c.statement = c'.statement ↔
      c.table.text = c'.table.text ∧ c.placeholderStyle = c'.placeholderStyle) ∧
    -- Every column has a placeholder, which has the number of the column if it has any.
    (Statement.placeholders c.placeholderStyle).length = Message.columns.length ∧
    (∀ k < Message.columns.length, (Statement.placeholders c.placeholderStyle)[k]? = some
      (match c.placeholderStyle with
        | .dollar   => "$" ++ toString (k + 1)
        | .question => "?")) ∧
    -- Every column has an argument, which is the value that the column is named for.
    (∀ m : Message, m.arguments.length = Message.columns.length ∧
      Message.columns.zip m.arguments =
        [("event_id", .text m.eventId), ("event_topic", .text m.eventTopic),
         ("event_domain", .text m.eventDomain), ("event_type", .text m.eventType),
         ("object_type", .text m.objectType), ("producer", .nullableText m.producer),
         ("correlation_id", .nullableText m.correlationId), ("payload", .json m.payload),
         ("metadata", .json m.metadata), ("created_at", .timestamp m.createdAt)]) ∧
    -- Arguments tell messages apart, and the id is found in them.
    Function.Injective Message.arguments ∧
    ∀ m : Message, Statement.eventIdOf? m.arguments = some m.eventId := by
  have ⟨ht, hs⟩ := Config.ofOptions_eq_ok h
  have htable : Statement.tableOf c.statement = c.table.text.toList := Statement.tableOf_insert
  refine ⟨Options.text_table ht, hs, rfl, htable, fun _ => Statement.insert_eq_iff,
    by simp [Statement.placeholders], fun k hk => ?_, fun _ => ⟨rfl, rfl⟩,
    Message.arguments_injective, Statement.eventIdOf?_arguments⟩
  rw [Statement.getElem?_placeholders hk]
  cases c.placeholderStyle <;> rfl

theorem statement_splices_safely_trimmed :
    let o : Options := { tableName := " Outbox.Events_V2 ", placeholderStyle := .question }
    ∃ c, Config.ofOptions o = .ok c ∧
      c.table.text.toList = "Outbox.Events_V2".toList ∧
      (c.statement.toList.drop "INSERT INTO ".length).takeWhile (· ≠ ' ') =
        "Outbox.Events_V2".toList := by
  intro o
  have hn : Table.nameRefusal? (trim o.tableName.toList) = none := by decide +kernel
  have ht : Table.Name.parse o.tableName =
      .ok ⟨String.ofList (trim o.tableName.toList), by rwa [String.toList_ofList]⟩ :=
    Table.Name.parse_eq_ok_iff.mpr ⟨hn, rfl⟩
  have ⟨c, hc⟩ : ∃ c, Config.ofOptions o = .ok c := Config.exists_ofOptions (by decide) ht
  have ⟨hx, _, _, hs, _⟩ := statement_splices_safely hc
  have htrim : trim o.tableName.toList = "Outbox.Events_V2".toList := by decide +kernel
  exact ⟨c, hc, hx.trans htrim, hs.trans (hx.trans htrim)⟩

end Publisher

end Outbox

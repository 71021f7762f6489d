import Outbox.Proofs.Statement
/-!
What is logged about the name of a table that is refused and looks like an attack. The name itself
is left out, but the refusal is logged as it reads, and most refusals repeat the name. So the log
keeps the name back only if the refusal is about a length or a sequence.
-/

namespace Outbox

open Text (trim)

namespace Table

variable {r r' : Refusal} {s : List Char} {text name : String} {allowed : List String}

namespace Refusal

-- The refused text, if the refusal repeats it.
def name? : Refusal → Option String
  | empty                => none
  | tooLong _            => none
  | dangerousSequence _  => none
  | reservedKeyword name => some name
  | containsKeyword _ name => some name
  | invalidFormat name   => some name
  | systemCatalog name   => some name
  | notAllowed name      => some name

-- The refusal of another text for the same cause.
def rename (r : Refusal) (name : String) : Refusal :=
  match r with
  | empty                     => empty
  | tooLong length            => tooLong length
  | dangerousSequence q       => dangerousSequence q
  | reservedKeyword _         => reservedKeyword name
  | containsKeyword keyword _ => containsKeyword keyword name
  | invalidFormat _           => invalidFormat name
  | systemCatalog _           => systemCatalog name
  | notAllowed _              => notAllowed name

theorem rename_of_eq_none (h : r.name? = none) : r.rename name = r := by
  cases r <;> cases h <;> rfl

theorem rename_of_eq_some (h : r.name? = some name) : r.rename name = r := by
  cases r <;> cases h <;> rfl

theorem rename_rename (r : Refusal) (a b : String) : (r.rename a).rename b = r.rename b := by
  cases r <;> rfl

theorem name?_rename (r : Refusal) (name : String) :
    (r.rename name).name? = r.name?.map fun _ => name := by
  cases r <;> rfl

-- A refusal that repeats a text reads the same around it, whatever the text is.
theorem exists_message_rename (h : r.name? ≠ none) :
    ∃ before behind : String, ∀ name, (r.rename name).message = before ++ name ++ behind := by
  cases r
  case empty => exact absurd rfl h
  case tooLong => exact absurd rfl h
  case dangerousSequence => exact absurd rfl h
  case reservedKeyword => exact ⟨_, "", fun _ => (String.append_empty).symm⟩
  case containsKeyword => exact ⟨_, "", fun _ => (String.append_empty).symm⟩
  case invalidFormat => exact ⟨_, _, fun _ => String.append_assoc⟩
  case systemCatalog => exact ⟨_, "", fun _ => (String.append_empty).symm⟩
  case notAllowed => exact ⟨_, "", fun _ => (String.append_empty).symm⟩

theorem infix_message (h : r.name? = some name) : name.toList <:+: r.message.toList := by
  have ⟨before, behind, hm⟩ := r.exists_message_rename (by simp [h])
  rw [← rename_of_eq_some h, hm, String.toList_append, String.toList_append]
  exact List.infix_append _ _ _

-- Refusals for the same cause read differently as soon as they are of different texts.
theorem message_eq_iff (h : r.rename "" = r'.rename "") :
    r.message = r'.message ↔ r.name? = r'.name? := by
  have hn : r.name?.map (fun _ => "") = r'.name?.map fun _ => "" := by
    rw [← name?_rename, ← name?_rename, h]
  cases hr : r.name? <;> cases hr' : r'.name? <;> rw [hr, hr'] at hn
  case none.none =>
    rw [rename_of_eq_none hr, rename_of_eq_none hr'] at h
    simp [h]
  case none.some => cases hn
  case some.none => cases hn
  case some.some name name' =>
    have ⟨before, behind, hm⟩ := r.exists_message_rename (by simp [hr])
    have he : r' = r.rename name' := by
      rw [← rename_rename r "" name', h, rename_rename, rename_of_eq_some hr']
    have hl : r.message = before ++ name ++ behind := by
      rw [← hm, rename_of_eq_some hr]
    rw [hl, he, hm, Option.some.injEq, String.append_left_inj, String.append_right_inj]

end Refusal

theorem name?_of_identifierRefusal? (h : identifierRefusal? s = some r) :
    r.name? = none ∨ r.name? = some (String.ofList s) := by
  unfold identifierRefusal? at h
  dsimp only at h
  repeat' split at h
  all_goals cases h
  all_goals simp [Refusal.name?]

theorem name?_of_nameRefusal? (h : nameRefusal? s = some r) :
    r.name? = none ∨ r.name? = some (String.ofList s) := by
  unfold nameRefusal? at h
  cases hi : identifierRefusal? s
  case some => exact name?_of_identifierRefusal? (hi.trans (by simpa [hi] using h))
  case none =>
    rw [hi, Option.none_or] at h
    split at h <;> cases h
    exact .inr rfl

namespace Name

theorem parse_eq_error_iff : parse text = .error r ↔ nameRefusal? (trim text.toList) = some r := by
  unfold parse
  dsimp only
  split
  case h_1 h =>
    rw [String.toList_ofList] at h
    simp [h]
  case h_2 h =>
    rw [String.toList_ofList] at h
    simp [h]

theorem name?_of_parse (h : parse text = .error r) :
    r.name? = none ∨ r.name? = some (String.ofList (trim text.toList)) :=
  name?_of_nameRefusal? (parse_eq_error_iff.mp h)

theorem name?_of_parseAllowed (h : parseAllowed text allowed = .error r) :
    r.name? = none ∨ r.name? = some (String.ofList (trim text.toList)) := by
  cases hp : parse text
  case error =>
    simp only [parseAllowed, hp, bind, Except.bind, Except.error.injEq] at h
    exact name?_of_parse (h ▸ hp)
  case ok name =>
    simp only [parseAllowed, hp, bind, Except.bind] at h
    split at h <;> cases h
    exact .inr (congrArg some (parse_eq_ok_iff.mp hp).2)

end Name

end Table

namespace Publisher

variable {o o' : Options} {r r' : Table.Refusal}

theorem Options.name?_of_table (h : o.table = .error r) :
    r.name? = none ∨ r.name? = some (String.ofList (trim o.tableName.toList)) := by
  unfold Options.table at h
  split at h
  case h_1 => exact Table.Name.name?_of_parseAllowed h
  case h_2 => exact Table.Name.name?_of_parse h

theorem Options.table_eq_error_iff (h : o.allowedTables = none) :
    o.table = .error r ↔ Table.nameRefusal? (trim o.tableName.toList) = some r := by
  rw [table, h, Table.Name.parse_eq_error_iff]

theorem Config.warnings_of_resembles (hb : o.batchSize ≠ 0) (hr : o.table = .error r)
    (hi : Table.resemblesInjection o.tableName.toList) :
    warnings o = [⟨.warn, "Rejected outbox table name resembling an injection attempt",
      [("error", .text r.message)]⟩] := by
  have h : ofOptions o = .error (.invalidTableName r) := by
    simp [ofOptions, hb, hr]
  simp [warnings, h, hi]

-- Two names that look like attacks and are refused for the same cause. What is logged about each is
-- its refusal and nothing else, so both are logged alike if the refusal does not repeat the name.
-- If it does, the name is in the log, and both are logged alike only if they are the same.
theorem Config.warnings_of_resembles_eq_iff (hb : o.batchSize ≠ 0) (hb' : o'.batchSize ≠ 0)
    (hr : o.table = .error r) (hr' : o'.table = .error r')
    (hi : Table.resemblesInjection o.tableName.toList)
    (hi' : Table.resemblesInjection o'.tableName.toList)
    (hc : r.rename "" = r'.rename "") :
    warnings o = [⟨.warn, "Rejected outbox table name resembling an injection attempt",
      [("error", .text r.message)]⟩] ∧
    (warnings o = warnings o' ↔
      r.name? = none ∨ trim o.tableName.toList = trim o'.tableName.toList) ∧
    (r.name? ≠ none → trim o.tableName.toList <:+: r.message.toList) := by
  have hw := warnings_of_resembles hb hr hi
  have hw' := warnings_of_resembles hb' hr' hi'
  have hn := Options.name?_of_table hr
  have hn' := Options.name?_of_table hr'
  have hs : r.name? = none ↔ r'.name? = none := by
    rw [← Option.map_eq_none_iff, ← Table.Refusal.name?_rename r "", hc,
      Table.Refusal.name?_rename, Option.map_eq_none_iff]
  refine ⟨hw, ?_, fun h => ?_⟩
  case refine_1 =>
    have hm : warnings o = warnings o' ↔ r.name? = r'.name? := by
      rw [← Table.Refusal.message_eq_iff hc, hw, hw']
      simp
    rw [hm]
    rcases hn with hn | hn
    case inl => simp [hn, hs.mp hn]
    case inr =>
      have hn' : r'.name? = some (String.ofList (trim o'.tableName.toList)) :=
        hn'.resolve_left fun h => by simp [hs.mpr h] at hn
      simp [hn, hn', String.ofList_inj]
  case refine_2 =>
    have hn := Table.Refusal.infix_message (hn.resolve_left h)
    rwa [String.toList_ofList] at hn

theorem Config.warnings_of_resembles_eq_iff_sequence :
    let o : Options := { tableName := "accounts; -- a" }
    let o' : Options := { tableName := " users;/*", batchSize := 1 }
    warnings o = warnings o' := by
  intro o o'
  have hr : o.table = .error (.dangerousSequence ";") :=
    (Options.table_eq_error_iff rfl).mpr (by decide +kernel)
  have hr' : o'.table = .error (.dangerousSequence ";") :=
    (Options.table_eq_error_iff rfl).mpr (by decide +kernel)
  have hi : Table.resemblesInjection o.tableName.toList := by decide +kernel
  have hi' : Table.resemblesInjection o'.tableName.toList := by decide +kernel
  have ⟨_, he, _⟩ :=
    warnings_of_resembles_eq_iff (by decide) (by decide) hr hr' hi hi' rfl
  exact he.mpr (.inl rfl)

-- The log tells two attacks apart that are refused for the same keyword.
theorem Config.warnings_tell_names :
    let o : Options := { tableName := "union select token" }
    let o' : Options := { tableName := "union select secret" }
    o.batchSize ≠ 0 ∧ o'.batchSize ≠ 0 ∧
    o.table = .error (.containsKeyword "select" "union select token") ∧
    o'.table = .error (.containsKeyword "select" "union select secret") ∧
    Table.resemblesInjection o.tableName.toList ∧ Table.resemblesInjection o'.tableName.toList ∧
    warnings o ≠ warnings o' := by
  intro o o'
  have hr : o.table = .error (.containsKeyword "select" "union select token") :=
    (Options.table_eq_error_iff rfl).mpr (by decide +kernel)
  have hr' : o'.table = .error (.containsKeyword "select" "union select secret") :=
    (Options.table_eq_error_iff rfl).mpr (by decide +kernel)
  refine ⟨by decide, by decide, hr, hr', ?_, ?_, ?_⟩
  all_goals decide +kernel

end Publisher

end Outbox

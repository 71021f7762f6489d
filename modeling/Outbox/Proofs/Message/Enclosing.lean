import Outbox.Proofs.Message.ObjectType
/-!
Object types of types that are declared inside other items. Parts of their paths may carry groups in
angle brackets, such as the arguments of what encloses them. The object type is read off the first
part with a group, so it tells the type itself only if nothing that encloses it carries one.
-/

namespace Outbox.Message

open Text

-- Every bracket that is opened in the text is closed in it.
inductive IsBalanced : List Char → Prop
  | nil : IsBalanced []
  | cons {c : Char} {s : List Char} (hc : c ≠ '<' ∧ c ≠ '>') (hs : IsBalanced s) :
    IsBalanced (c :: s)
  | group {s t : List Char} (hs : IsBalanced s) (ht : IsBalanced t) :
    IsBalanced ('<' :: s ++ '>' :: t)

-- What is left of a text without the groups in brackets, `depth` of which are open before it.
def outsideBrackets (depth : Nat) : List Char → List Char
  | [] => []
  | c :: s =>
    if c = '<' then outsideBrackets (depth + 1) s
    else if c = '>' then outsideBrackets (depth - 1) s
    else if depth = 0 then c :: outsideBrackets depth s
    else outsideBrackets depth s

-- A part of a path: a name, or a group in brackets, or a name with a group behind it.
structure Part where
  name     : List Char
  group?   : Option (List Char)
  plain    : ∀ c ∈ name, c ≠ '<' ∧ c ≠ '>' ∧ c ≠ ':'
  balanced : ∀ group ∈ group?, IsBalanced group

namespace Part

def text (part : Part) : List Char :=
  part.name ++ (part.group?.elim [] fun group => '<' :: group ++ ['>'])

end Part

-- The path of a type: what it is declared in, and the type itself, which has a name.
structure TypePath where
  enclosing : List Part
  own       : Part
  named     : own.name ≠ []

def TypePath.text (path : TypePath) : String :=
  .ofList (qualified (path.enclosing.map Part.text) path.own.text)

variable {s t : List Char} {parts : List Part}

-- The object type is empty only where no name is.
theorem snakeCase_eq_nil_iff : snakeCase s = [] ↔ s = [] := by
  cases s
  case nil => exact iff_of_true rfl rfl
  case cons c s =>
    simp only [snakeCase, snakeCaseAfter, List.append_eq_nil_iff, reduceCtorEq, iff_false]
    rintro ⟨h, -⟩
    split at h
    case isTrue => exact lowerChar_ne_nil c (List.append_eq_nil_iff.mp h).2
    case isFalse => cases h

theorem IsBalanced.outsideBrackets_eq (h : IsBalanced s) (depth : Nat) (t : List Char) :
    outsideBrackets (depth + 1) (s ++ t) = outsideBrackets (depth + 1) t := by
  induction h generalizing depth t
  case nil => rfl
  case cons hc _ hi => simp [outsideBrackets, hc, hi]
  case group hs ht => simp [outsideBrackets, hs, ht]

theorem outsideBrackets_plain (h : ∀ c ∈ s, c ≠ '<' ∧ c ≠ '>') (t : List Char) :
    outsideBrackets 0 (s ++ t) = s ++ outsideBrackets 0 t := by
  induction s
  case nil => rfl
  case cons c s hi =>
    have ⟨hc, hs⟩ := List.forall_mem_cons.mp h
    simp [outsideBrackets, hc, hi hs]

theorem outsideBrackets_text (part : Part) (t : List Char) :
    outsideBrackets 0 (part.text ++ t) = part.name ++ outsideBrackets 0 t := by
  have hn : ∀ c ∈ part.name, c ≠ '<' ∧ c ≠ '>' := fun c hc =>
    ⟨(part.plain c hc).1, (part.plain c hc).2.1⟩
  rw [Part.text, List.append_assoc, outsideBrackets_plain hn]
  cases h : part.group?
  case none => rfl
  case some group => simp [outsideBrackets, (part.balanced group h).outsideBrackets_eq]

-- Without the groups, the names of the parts remain.
theorem outsideBrackets_qualified (parts : List Part) (own : Part) :
    outsideBrackets 0 (qualified (parts.map Part.text) own.text) =
      qualified (parts.map Part.name) own.name := by
  induction parts
  case nil => simpa [qualified, outsideBrackets] using outsideBrackets_text own []
  case cons part parts hi =>
    have hm : ∀ c ∈ [':', ':'], c ≠ '<' ∧ c ≠ '>' := by simp
    simp only [qualified] at hi
    simp only [qualified, List.map_cons, List.flatMap_cons, List.append_assoc, outsideBrackets_text,
      outsideBrackets_plain hm, hi]

-- The first part that carries a group makes the object type, and the last part if none does.
theorem objectTypeOf_first_group {before : List Part} {part : Part}
    (hb : ∀ p ∈ before, p.group? = none) (ht : part.group? = none → t = []) :
    objectTypeOf (.ofList (qualified (before.map Part.text) (part.text ++ t))) =
      .ofList (snakeCase part.name) := by
  have hp : ∀ text ∈ before.map Part.text, '<' ∉ text := by
    intro text h
    obtain ⟨p, hp, rfl⟩ := List.mem_map.mp h
    rw [Part.text, hb p hp, Option.elim_none, List.append_nil]
    exact fun h => (p.plain _ h).1 rfl
  let rest := (part.group?.elim [] fun group => '<' :: group ++ ['>']) ++ t
  have hr : ∀ c ∈ rest.head?, c = '<' := by
    cases h : part.group?
    case none => simp [rest, h, ht h]
    case some => simp [rest, h, eq_comm]
  have he : qualified (before.map Part.text) (part.text ++ t) =
      qualified (before.map Part.text) part.name ++ rest := by
    simp [qualified, Part.text, rest]
  rw [he, objectTypeOf_qualified hp (fun h => (part.plain _ h).1 rfl)
    (fun h => (part.plain _ h).2.2 rfl) hr]

theorem ofList_snakeCase_eq_empty_iff : String.ofList (snakeCase s) = "" ↔ s = [] := by
  rw [← snakeCase_eq_nil_iff, ← String.ofList_nil, String.ofList_inj]

-- The object type of a type that is declared inside other items.
theorem objectTypeOf_path (path : TypePath) :
    -- The type is named by the last part of its path outside of brackets.
    lastSegment (outsideBrackets 0 path.text.toList) = path.own.name ∧
    -- The object type is made of its name if nothing that encloses it carries a group.
    ((∀ part ∈ path.enclosing, part.group? = none) →
      objectTypeOf path.text = .ofList (snakeCase path.own.name) ∧ objectTypeOf path.text ≠ "") ∧
    -- Otherwise it is made of the first part that does, and is empty if that has no name.
    ∀ before part behind, path.enclosing = before ++ part :: behind →
      (∀ p ∈ before, p.group? = none) → part.group? ≠ none →
      objectTypeOf path.text = .ofList (snakeCase part.name) ∧
      (objectTypeOf path.text = "" ↔ part.name = []) := by
  refine ⟨?own, fun h => ?bare, fun before part behind he hb hg => ?group⟩
  case own =>
    rw [TypePath.text, String.toList_ofList, outsideBrackets_qualified]
    exact lastSegment_qualified fun h => (path.own.plain _ h).2.2 rfl
  case bare =>
    have ho : objectTypeOf path.text = .ofList (snakeCase path.own.name) := by
      rw [TypePath.text, ← List.append_nil path.own.text]
      exact objectTypeOf_first_group h fun _ => rfl
    exact ⟨ho, ho ▸ fun h => path.named (ofList_snakeCase_eq_empty_iff.mp h)⟩
  case group =>
    have ht : qualified (path.enclosing.map Part.text) path.own.text =
        qualified (before.map Part.text)
          (part.text ++ ':' :: ':' :: qualified (behind.map Part.text) path.own.text) := by
      simp [qualified, he]
    have ho : objectTypeOf path.text = .ofList (snakeCase part.name) := by
      rw [TypePath.text, ht]
      exact objectTypeOf_first_group hb fun h => absurd h hg
    exact ⟨ho, ho ▸ ofList_snakeCase_eq_empty_iff⟩

-- A type that is declared in a method of a generic one goes by the name of that.
example : objectTypeOf "app::Envelope<T>::seal::Sealed" = "envelope" := by decide +kernel

end Outbox.Message

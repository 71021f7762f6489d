import Outbox.Message.ObjectType
import Outbox.Proofs.Text.Lowercase
import Outbox.Text.Search
/-!
The object type that is made of the name of a type. Of a path it takes the last part in front of the
first angle bracket. A name that is written as capitalized words becomes these words in lower case,
whatever modules it is in and whatever it is applied to.
-/

namespace Outbox.Message

open Text

variable {c : Char} {s t name rest : List Char} {path : List (List Char)} {before : Option Char}

theorem untilColons_append (h : ':' ∉ s) (t : List Char) :
    untilColons (s ++ ':' :: ':' :: t) = s := by
  induction s
  case nil => rfl
  case cons c s hi =>
    have ⟨hc, hs⟩ : ':' ≠ c ∧ ':' ∉ s := by simpa using h
    rw [List.cons_append, untilColons, hi hs]
    exact fun _ he => absurd he.symm hc

theorem untilColons_of_not_mem (h : ':' ∉ s) : untilColons s = s := by
  induction s
  case nil => rfl
  case cons c s hi =>
    have ⟨hc, hs⟩ : ':' ≠ c ∧ ':' ∉ s := by simpa using h
    rw [untilColons, hi hs]
    exact fun _ he => absurd he.symm hc

-- The parts of a path with colons behind each of them, and what follows.
def qualified (path : List (List Char)) (s : List Char) : List Char :=
  path.flatMap (· ++ [':', ':']) ++ s

theorem lastSegment_qualified (h : ':' ∉ name) : lastSegment (qualified path name) = name := by
  have hr : ':' ∉ name.reverse := by rwa [List.mem_reverse]
  rcases List.eq_nil_or_concat path with rfl | ⟨path, part, rfl⟩
  case inl =>
    rw [qualified, List.flatMap_nil, List.nil_append, lastSegment, untilColons_of_not_mem hr,
      List.reverse_reverse]
  case inr =>
    have he : (qualified (path.concat part) name).reverse =
        name.reverse ++ ':' :: ':' :: (path.flatMap (· ++ [':', ':']) ++ part).reverse := by
      simp [qualified]
    rw [lastSegment, he, untilColons_append hr, List.reverse_reverse]

theorem mem_qualified (h : c ∈ qualified path s) (hc : c ≠ ':') :
    c ∈ s ∨ ∃ part ∈ path, c ∈ part := by
  simp only [qualified, List.mem_append, List.mem_flatMap, List.mem_cons, List.not_mem_nil, hc,
    or_false] at h
  exact h.symm

-- What counts is the last part of the path in front of the first bracket.
theorem objectTypeOf_qualified (hp : ∀ part ∈ path, '<' ∉ part) (hn : '<' ∉ name) (hc : ':' ∉ name)
    (hr : ∀ c ∈ rest.head?, c = '<') :
    objectTypeOf (.ofList (qualified path name ++ rest)) = .ofList (snakeCase name) := by
  have hq : ∀ c ∈ qualified path name, c != '<' := by
    intro c hm
    refine bne_iff_ne.mpr fun he => ?_
    rcases mem_qualified (he ▸ hm) (by decide) with h | ⟨part, hpart, h⟩
    · exact hn h
    · exact hp part hpart h
  have hr : ∀ c ∈ rest.head?, (c != '<') = false := fun c hm => by simp [hr c hm]
  have hs := span_append hq hr
  rw [objectTypeOf, String.toList_ofList, hs.1, lastSegment_qualified hc]

-- What a word may go on with.
def continuesWord (c : Char) : Bool :=
  c.isLower || c.isDigit

theorem isAlphanum_of_continuesWord (h : continuesWord c) : c.isAlphanum := by
  rw [continuesWord, Bool.or_eq_true] at h
  delta Char.isAlphanum Char.isAlpha
  rcases h with h | h <;> simp [h]

theorem continuesWord_of_isLower (h : c.isLower) : continuesWord c := by
  rw [continuesWord, h, Bool.true_or]

theorem isUppercase_of_continuesWord (h : continuesWord c) : isUppercase c = false := by
  have hc := toNat_lt_of_isAlphanum (isAlphanum_of_continuesWord h)
  rw [isUppercase_ascii hc]
  exact forall_ascii (P := fun c => continuesWord c → c.isUpper = false) (by decide) hc h

-- Behind such a character, a letter in upper case starts a new word.
theorem startsWord_of_continuesWord (h : continuesWord c) (after : List Char) :
    startsWord (some c) after := by
  have hc := toNat_lt_of_isAlphanum (isAlphanum_of_continuesWord h)
  rw [continuesWord, Bool.or_eq_true] at h
  simp [startsWord, isLowercase_ascii hc, h]

-- A word of a name: a letter in lower case, and further ones or digits behind it.
structure Word where
  first     : Char
  rest      : List Char
  isLower   : first.isLower
  longer    : rest ≠ []
  continued : ∀ c ∈ rest, continuesWord c

namespace Word

def text (w : Word) : List Char :=
  w.first :: w.rest

def capitalized (w : Word) : List Char :=
  w.first.toUpper :: w.rest

theorem exists_getLast? (w : Word) : ∃ c, continuesWord c ∧ w.rest.getLast? = some c :=
  ⟨w.rest.getLast w.longer, w.continued _ (List.getLast_mem w.longer),
    List.getLast?_eq_some_getLast w.longer⟩

theorem toNat_first_lt (w : Word) : w.first.toNat < 128 :=
  toNat_lt_of_isAlphanum (isAlphanum_of_continuesWord (continuesWord_of_isLower w.isLower))

theorem isAlphanum_of_mem_capitalized {w : Word} (h : c ∈ w.capitalized) : c.isAlphanum := by
  cases h
  case head =>
    exact forall_ascii (P := fun c => c.isLower → c.toUpper.isAlphanum) (by decide)
      w.toNat_first_lt w.isLower
  case tail h => exact isAlphanum_of_continuesWord (w.continued c h)

end Word

theorem snakeCaseAfter_append (hs : ∀ c ∈ s, isUppercase c = false) (t : List Char) :
    snakeCaseAfter before (s ++ t) = s ++ snakeCaseAfter (s.getLast?.or before) t := by
  induction s generalizing before
  case nil => rfl
  case cons c s hi =>
    have ⟨hc, hs⟩ := List.forall_mem_cons.mp hs
    have hl : (c :: s).getLast?.or before = s.getLast?.or (some c) := by
      cases h : s.getLast? <;> simp [List.getLast?_cons, h]
    rw [List.cons_append, snakeCaseAfter, if_neg (Bool.eq_false_iff.mp hc), hi hs, hl]
    rfl

theorem snakeCaseAfter_capitalized (w : Word) (before : Option Char) (t : List Char) :
    snakeCaseAfter before (w.capitalized ++ t) =
      (if startsWord before (w.rest ++ t) then ['_'] else []) ++ w.text ++
        snakeCaseAfter w.rest.getLast? t := by
  have hu : isUppercase w.first.toUpper ∧ lowerChar w.first.toUpper = [w.first] :=
    forall_ascii (P := fun c => c.isLower → isUppercase c.toUpper ∧ lowerChar c.toUpper = [c])
      (by decide) w.toNat_first_lt w.isLower
  have hl : w.rest.getLast?.or (some w.first.toUpper) = w.rest.getLast? := by
    obtain ⟨d, -, hl⟩ := w.exists_getLast?
    rw [hl, Option.some_or]
  rw [Word.capitalized, List.cons_append, snakeCaseAfter, if_pos hu.1, hu.2,
    snakeCaseAfter_append fun c hc => isUppercase_of_continuesWord (w.continued c hc), hl,
    Word.text]
  simp only [List.append_assoc, List.cons_append, List.nil_append]

-- Behind a word, every further one gets an underscore in front of it.
theorem snakeCaseAfter_words (hc : continuesWord c) (ws : List Word) :
    snakeCaseAfter (some c) (ws.flatMap Word.capitalized) = ws.flatMap ('_' :: ·.text) := by
  induction ws generalizing c
  case nil => rfl
  case cons w ws hi =>
    obtain ⟨d, hd, hl⟩ := w.exists_getLast?
    rw [List.flatMap_cons, snakeCaseAfter_capitalized, if_pos (startsWord_of_continuesWord hc _),
      hl, hi hd, List.flatMap_cons]
    rfl

theorem intercalate_cons (sep x : List Char) (xs : List (List Char)) :
    sep.intercalate (x :: xs) = x ++ xs.flatMap (sep ++ ·) := by
  induction xs generalizing x
  case nil => simp
  case cons y ys hi =>
    rw [List.intercalate_cons_cons, hi, List.flatMap_cons, List.append_assoc, List.append_assoc]

theorem snakeCase_words (ws : List Word) :
    snakeCase (ws.flatMap Word.capitalized) = ['_'].intercalate (ws.map Word.text) := by
  cases ws
  case nil => rfl
  case cons w ws =>
    obtain ⟨d, hd, hl⟩ := w.exists_getLast?
    rw [snakeCase, List.flatMap_cons, snakeCaseAfter_capitalized, hl, snakeCaseAfter_words hd,
      List.map_cons, intercalate_cons, List.flatMap_map]
    rfl

theorem isAlphanum_of_mem_words {ws : List Word} (h : c ∈ ws.flatMap Word.capitalized) :
    c.isAlphanum := by
  obtain ⟨w, -, h⟩ := List.mem_flatMap.mp h
  exact w.isAlphanum_of_mem_capitalized h

-- A name that is made of words is taken apart into them, wherever the type is declared and whatever
-- it is applied to.
theorem objectTypeOf_words (path : List (List Char)) (ws : List Word)
    (hp : ∀ part ∈ path, '<' ∉ part) :
    let name := qualified path (ws.flatMap Word.capitalized)
    let objectType := String.ofList (['_'].intercalate (ws.map Word.text))
    objectTypeOf (.ofList name) = objectType ∧
      ∀ generics, objectTypeOf (.ofList (name ++ '<' :: generics)) = objectType := by
  intro name objectType
  have hn : '<' ∉ ws.flatMap Word.capitalized := fun h =>
    absurd (isAlphanum_of_mem_words h) (by decide)
  have hc : ':' ∉ ws.flatMap Word.capitalized := fun h =>
    absurd (isAlphanum_of_mem_words h) (by decide)
  have ho (rest : List Char) (hr : ∀ c ∈ rest.head?, c = '<') :
      objectTypeOf (.ofList (name ++ rest)) = objectType := by
    rw [objectTypeOf_qualified hp hn hc hr, snakeCase_words]
  refine ⟨?_, fun generics => ho _ fun c h => (Option.some.inj h).symm⟩
  rw [← ho [] (by simp), List.append_nil]

theorem objectTypeOf_words_generic :
    objectTypeOf "app::orders::UserAccountV2<alloc::Box<app::Id>>" = "user_account_v2" := by
  let ws : List Word :=
    [⟨'u', "ser".toList, by decide, by decide, List.all_eq_true.mp (by decide)⟩,
      ⟨'a', "ccount".toList, by decide, by decide, List.all_eq_true.mp (by decide)⟩,
      ⟨'v', "2".toList, by decide, by decide, List.all_eq_true.mp (by decide)⟩]
  have h := objectTypeOf_words ["app".toList, "orders".toList] ws (by decide)
  exact h.2 "alloc::Box<app::Id>>".toList

end Outbox.Message

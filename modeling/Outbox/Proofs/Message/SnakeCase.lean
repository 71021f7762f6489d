import Outbox.Proofs.Message.ObjectType
/-!
Names in snake case. Each character of such a name either stands for one of the name it was made of
or is an underscore that was put in. Of an ASCII name nothing is lost but the case of its letters,
and putting it into snake case again changes nothing.
-/

namespace Outbox.Message

open Text

-- What is written in snake case: an underscore that was put in, or a character of the name.
inductive Origin where
  | inserted
  | taken (c : Char)
  deriving DecidableEq

namespace Origin

def text : Origin → List Char
  | inserted => ['_']
  | taken c  => if isUppercase c then lowerChar c else [c]

end Origin

def originsAfter (before : Option Char) : List Char → List Origin
  | [] => []
  | c :: rest =>
    (if isUppercase c && startsWord before rest then [.inserted] else []) ++
      .taken c :: originsAfter (some c) rest

-- Where the characters of a name in snake case come from.
def origins (s : List Char) : List Origin :=
  originsAfter none s

-- Writes a name in snake case behind what is written already. No underscore is put in behind
-- another one.
def writeSnakeCase (written : List Char) (before : Option Char) : List Char → List Char
  | [] => written
  | c :: rest =>
    let parted :=
      if isUppercase c && startsWord before rest && written.getLast? != some '_' then
        written ++ ['_']
      else written
    writeSnakeCase (parted ++ (Origin.taken c).text) (some c) rest

variable {c : Char} {s written : List Char} {before : Option Char} {front back : List Origin}

theorem snakeCaseAfter_cons (before : Option Char) (c : Char) (rest : List Char) :
    snakeCaseAfter before (c :: rest) =
      (if isUppercase c && startsWord before rest then ['_'] else []) ++ (Origin.taken c).text ++
        snakeCaseAfter (some c) rest := by
  cases h : isUppercase c <;> simp [snakeCaseAfter, Origin.text, h]

theorem flatMap_text_originsAfter (before : Option Char) (s : List Char) :
    (originsAfter before s).flatMap Origin.text = snakeCaseAfter before s := by
  induction s generalizing before
  case nil => rfl
  case cons c rest hi =>
    rw [originsAfter, snakeCaseAfter_cons, List.flatMap_append, List.flatMap_cons, hi,
      List.append_assoc]
    congr 1
    split <;> rfl

-- What was not put in is the name.
theorem filter_originsAfter (before : Option Char) (s : List Char) :
    (originsAfter before s).filter (· ≠ .inserted) = s.map .taken := by
  induction s generalizing before
  case nil => rfl
  case cons c rest hi =>
    rw [originsAfter, List.filter_append, List.filter_cons_of_pos (by simp), hi]
    split <;> rfl

theorem mem_text_taken (h : '_' ∈ (Origin.taken c).text) : c = '_' := by
  rw [Origin.text] at h
  split at h
  case isTrue => exact eq_of_mem_lowerChar (by decide) h
  case isFalse => exact (List.mem_singleton.mp h).symm

theorem text_taken_ne_nil (c : Char) : (Origin.taken c).text ≠ [] := by
  rw [Origin.text]
  split
  case isTrue => exact lowerChar_ne_nil c
  case isFalse => exact List.cons_ne_nil _ _

-- No word starts behind an underscore.
theorem startsWord_underscore (rest : List Char) : startsWord (some '_') rest = false := by
  have hl : isLowercase '_' = false := isLowercase_ascii (by decide)
  have hu : isUppercase '_' = false := isUppercase_ascii (by decide)
  simp [startsWord, hl, hu]

theorem ne_underscore_of_startsWord {rest : List Char} (h : startsWord (some c) rest) :
    c ≠ '_' := by
  rintro rfl
  rw [startsWord_underscore] at h
  cases h

-- An underscore that was put in is the first thing written or stands behind the first character.
theorem originsAfter_cons_eq_append {rest : List Char}
    (h : originsAfter before (c :: rest) = front ++ .inserted :: back) :
    (front = [] ∧ isUppercase c ∧ startsWord before rest ∧ back.head? = some (.taken c)) ∨
      ∃ front₁ front₂, front = front₁ ++ .taken c :: front₂ ∧
        originsAfter (some c) rest = front₂ ++ .inserted :: back := by
  rw [originsAfter] at h
  split at h
  case isTrue hs =>
    rw [Bool.and_eq_true] at hs
    rcases List.cons_eq_append_iff.mp h with ⟨hf, hb⟩ | ⟨front₁, hf, hl⟩
    case inl =>
      cases hb
      exact .inl ⟨hf, hs.1, hs.2, rfl⟩
    case inr =>
      obtain ⟨front₂, rfl, hb⟩ : ∃ front₂, front₁ = .taken c :: front₂ ∧
          originsAfter (some c) rest = front₂ ++ .inserted :: back := by
        simpa [List.cons_eq_append_iff] using hl
      exact .inr ⟨[.inserted], front₂, hf, hb⟩
  case isFalse =>
    obtain ⟨front₂, hf, hb⟩ : ∃ front₂, front = .taken c :: front₂ ∧
        originsAfter (some c) rest = front₂ ++ .inserted :: back := by
      simpa [List.cons_eq_append_iff] using h
    exact .inr ⟨[], front₂, hf, hb⟩

-- Each underscore that was put in stands between two characters of the name.
theorem neighbours_of_inserted (h : originsAfter before s = front ++ .inserted :: back) :
    ∃ c d, (before.toList.map Origin.taken ++ front).getLast? = some (.taken c) ∧
      back.head? = some (.taken d) ∧ c ≠ '_' ∧ isUppercase d := by
  induction s generalizing before front
  case nil => exact absurd h (by simp [originsAfter])
  case cons d rest hi =>
    rcases originsAfter_cons_eq_append h with ⟨hf, hd, hs, hb⟩ | ⟨front₁, front₂, hf, hb⟩
    case inl =>
      cases before
      case none => cases hs
      case some c => exact ⟨c, d, by rw [hf]; rfl, hb, ne_underscore_of_startsWord hs, hd⟩
    case inr =>
      obtain ⟨c, e, hc, he⟩ := hi hb
      have hc : (.taken d :: front₂).getLast? = some (.taken c) := hc
      exact ⟨c, e, by rw [hf, ← List.append_assoc, List.getLast?_append, hc, Option.some_or], he⟩

-- Whether there is an underscore already need not be asked.
theorem writeSnakeCase_eq (h : written.getLast? = some '_' → before = some '_') :
    writeSnakeCase written before s = written ++ snakeCaseAfter before s := by
  induction s generalizing written before
  case nil => simp [writeSnakeCase, snakeCaseAfter]
  case cons c rest hi =>
    have hp : (isUppercase c && startsWord before rest && written.getLast? != some '_') =
        (isUppercase c && startsWord before rest) := by
      by_cases hl : written.getLast? = some '_'
      case pos => rw [h hl, startsWord_underscore, Bool.and_false, Bool.false_and]
      case neg => rw [bne_iff_ne.mpr hl, Bool.and_true]
    have hn {parted : List Char} (hl : (parted ++ (Origin.taken c).text).getLast? = some '_') :
        some c = some '_' := by
      have he : (parted ++ (Origin.taken c).text).getLast? = (Origin.taken c).text.getLast? := by
        rw [List.getLast?_append, List.getLast?_eq_some_getLast (text_taken_ne_nil c),
          Option.some_or]
      exact congrArg some (mem_text_taken (List.mem_of_getLast? (he ▸ hl)))
    rw [writeSnakeCase, hp, hi hn, snakeCaseAfter_cons]
    split <;> simp

theorem text_taken_ascii (h : c.toNat < 128) : (Origin.taken c).text = [c.toLower] := by
  have hl : c.isUpper = false → c.toLower = c :=
    forall_ascii (P := fun c => c.isUpper = false → c.toLower = c) (by decide) h
  rw [Origin.text, isUppercase_ascii h]
  cases hc : c.isUpper
  case true => exact lowerChar_ascii h
  case false => simp [hl hc]

theorem isUppercase_toLower (h : c.toNat < 128) : isUppercase c.toLower = false :=
  forall_ascii (P := fun c => isUppercase c.toLower = false) (by decide) h

theorem isUppercase_of_mem_snakeCase (hs : ∀ c ∈ s, c.toNat < 128) (h : c ∈ snakeCase s) :
    isUppercase c = false := by
  rw [snakeCase, ← flatMap_text_originsAfter] at h
  obtain ⟨o, ho, hc⟩ := List.mem_flatMap.mp h
  cases o
  case inserted =>
    obtain rfl := List.mem_singleton.mp hc
    exact isUppercase_ascii (by decide)
  case taken d =>
    have hd : .taken d ∈ (originsAfter none s).filter (· ≠ .inserted) :=
      List.mem_filter.mpr ⟨ho, by simp⟩
    rw [filter_originsAfter] at hd
    have hd : d ∈ s := by simpa using hd
    rw [text_taken_ascii (hs d hd)] at hc
    obtain rfl := List.mem_singleton.mp hc
    exact isUppercase_toLower (hs d hd)

theorem snakeCase_of_not_isUppercase (h : ∀ c ∈ s, isUppercase c = false) : snakeCase s = s := by
  have ha : snakeCase (s ++ []) = s ++ [] := snakeCaseAfter_append h []
  rwa [List.append_nil] at ha

-- Snake case puts letters into lower case and parts words from each other, and that is all it does.
theorem snakeCase_ascii (s : List Char) (hs : ∀ c ∈ s, c.toNat < 128) :
    (∀ c ∈ snakeCase s, isUppercase c = false) ∧
    -- Without the underscores that were put in, what is written is the name in lower case.
    snakeCase s = (origins s).flatMap Origin.text ∧
    (origins s).filter (· ≠ .inserted) = s.map .taken ∧
    (s.map Origin.taken).flatMap Origin.text = s.map Char.toLower ∧
    -- They stand in front of upper-case letters, neither at the start nor next to an underscore.
    (∀ front back, origins s = front ++ .inserted :: back →
      ∃ c d, front.getLast? = some (.taken c) ∧ back.head? = some (.taken d) ∧ isUppercase d ∧
        '_' ∉ (Origin.taken c).text ∧ '_' ∉ (Origin.taken d).text) ∧
    -- It makes no difference if one looks for an underscore before one is put in.
    snakeCase s = writeSnakeCase [] none s ∧
    snakeCase (snakeCase s) = snakeCase s := by
  have hu : ∀ c ∈ snakeCase s, isUppercase c = false := fun c => isUppercase_of_mem_snakeCase hs
  refine ⟨hu, (flatMap_text_originsAfter none s).symm, filter_originsAfter none s, ?lower,
    fun front back h => ?parted, ?written, ?again⟩
  case lower =>
    rw [List.flatMap_map, List.map_eq_flatMap, List.flatMap_def, List.flatMap_def,
      List.map_congr_left fun c hc => text_taken_ascii (hs c hc)]
  case parted =>
    obtain ⟨c, d, hc, hd, hn, hu⟩ := neighbours_of_inserted h
    refine ⟨c, d, hc, hd, hu, mt mem_text_taken hn, fun h => ?_⟩
    obtain rfl := mem_text_taken h
    rw [isUppercase_ascii (by decide)] at hu
    cases hu
  case written =>
    have h : [].getLast? = some '_' → (none : Option Char) = some '_' := nofun
    exact (writeSnakeCase_eq h).symm
  case again => exact snakeCase_of_not_isUppercase hu

theorem snakeCase_ascii_acronyms :
    let s := "HTTPRoute_V2toJSON".toList
    snakeCase s = "http_route_v2to_json".toList ∧ snakeCase (snakeCase s) = snakeCase s := by
  intro s
  obtain ⟨-, -, -, -, -, -, again⟩ := snakeCase_ascii s (by simp [s])
  exact ⟨by decide +kernel, again⟩

end Outbox.Message

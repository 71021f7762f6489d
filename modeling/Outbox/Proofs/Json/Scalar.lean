import Mathlib.Data.List.TakeWhile
import Outbox.Json.Grammar
import Outbox.Text.Search
/-!
Numerals and quoted texts as they are written. What is written well reads back, whatever comes
behind it; and what is read without a defect is written well.
-/

namespace Outbox.Json

open Text (span_append)

section Outcomes

variable {ε α β : Type} {x : Except ε α} {f : α → Except ε β} {g : α → β} {b : β} {e : ε}

theorem bind_eq_ok : x >>= f = .ok b ↔ ∃ a, x = .ok a ∧ f a = .ok b := by
  cases x <;> simp [bind, Except.bind]

theorem bind_eq_error : x >>= f = .error e ↔ x = .error e ∨ ∃ a, x = .ok a ∧ f a = .error e := by
  cases x <;> simp [bind, Except.bind]

theorem map_eq_ok : x.map g = .ok b ↔ ∃ a, x = .ok a ∧ g a = b := by
  cases x <;> simp [Except.map]

theorem map_eq_error : x.map g = .error e ↔ x = .error e := by
  cases x <;> simp [Except.map]

theorem exists_map_eq_ok : (∃ b, x.map g = .ok b) ↔ ∃ a, x = .ok a := by
  cases x <;> simp [Except.map]

theorem mapError_eq_ok {ε' : Type} {f : ε → ε'} {a : α} : x.mapError f = .ok a ↔ x = .ok a := by
  cases x
  case error =>
    constructor <;> intro h <;> cases h
  case ok =>
    constructor <;> intro h <;> cases h <;> rfl

end Outcomes

section Numerals

variable {ds r s : List Char} {negative : Bool} {n : Numeral}

def AreDigits (ds : List Char) : Prop :=
  ds ≠ [] ∧ ∀ d ∈ ds, d.isDigit

structure Exponent.IsProper (e : Exponent) : Prop where
  mark   : e.mark = 'e' ∨ e.mark = 'E'
  sign   : ∀ c ∈ e.sign, c = '+' ∨ c = '-'
  digits : AreDigits e.digits

-- Only a single digit may be a leading zero.
structure Numeral.IsProper (n : Numeral) : Prop where
  whole    : AreDigits n.whole
  leading  : n.whole.head? = some '0' → n.whole = ['0']
  fraction : ∀ ds ∈ n.fraction, AreDigits ds
  exponent : ∀ e ∈ n.exponent, e.IsProper

def fractionSource (fraction : Option (List Char)) : List Char :=
  (fraction.map ('.' :: ·)).getD []

def exponentSource (exponent : Option Exponent) : List Char :=
  (exponent.map Exponent.source).getD []

-- What is written of a numeral behind its sign.
def Numeral.unsigned (n : Numeral) : List Char :=
  n.whole ++ (fractionSource n.fraction ++ exponentSource n.exponent)

theorem Numeral.source_eq (n : Numeral) :
    n.source = (if n.negative then ['-'] else []) ++ n.unsigned := by
  simp [source, unsigned, fractionSource, exponentSource]

-- A text that does not go on with a numeral.
def EndsNumeral (s : List Char) : Prop :=
  ∀ c ∈ s.head?, c.isDigit = false ∧ c ≠ '.' ∧ c ≠ 'e' ∧ c ≠ 'E'

theorem digits_append (h : AreDigits ds) (hr : ∀ c ∈ r.head?, c.isDigit = false) :
    digits (ds ++ r) = .ok (ds, r) := by
  have ⟨ht, hd⟩ := span_append h.2 hr
  cases ds
  case nil => exact absurd rfl h.1
  case cons d ds =>
    rw [List.cons_append] at ht hd ⊢
    simp only [digits, h.2 d (.head _), if_true, ht, hd]

theorem digits_eq_ok (h : digits s = .ok (ds, r)) : AreDigits ds ∧ s = ds ++ r := by
  unfold digits at h
  split at h
  case h_1 => cases h
  case h_2 c s =>
    split at h
    case isFalse => cases h
    case isTrue hc =>
      cases h
      refine ⟨⟨by simp [hc], fun d hd => List.mem_takeWhile_imp hd⟩, ?_⟩
      exact List.takeWhile_append_dropWhile.symm

theorem wholeDigits_append (h : AreDigits ds) (hz : ds.head? = some '0' → ds = ['0'])
    (hr : ∀ c ∈ r.head?, c.isDigit = false) : wholeDigits (ds ++ r) = .ok (ds, r) := by
  by_cases hd : ds.head? = some '0'
  case pos =>
    rw [hz hd]
    cases r
    case nil => rfl
    case cons c r => simp [wholeDigits, hr c rfl]
  case neg =>
    rw [wholeDigits, digits_append h hr]
    intro c s he
    cases ds
    case nil => exact h.1 rfl
    case cons d ds => simp_all

theorem wholeDigits_eq_ok (h : wholeDigits s = .ok (ds, r)) :
    AreDigits ds ∧ (ds.head? = some '0' → ds = ['0']) ∧ s = ds ++ r := by
  unfold wholeDigits at h
  split at h
  case h_1 c s =>
    split at h <;> cases h
    exact ⟨⟨by simp, by simp⟩, by simp⟩
  case h_2 hn =>
    have ⟨hd, hs⟩ := digits_eq_ok h
    refine ⟨hd, fun hz => ?_, hs⟩
    -- a second digit behind a zero has been looked for
    match ds with
    | [_] => simpa using hz
    | d :: c :: ds =>
      cases hz
      exact absurd hs (hn c _)

theorem fractionDigits_append {fraction : Option (List Char)}
    (h : ∀ ds ∈ fraction, AreDigits ds) (hr : ∀ c ∈ r.head?, c.isDigit = false ∧ c ≠ '.') :
    fractionDigits (fractionSource fraction ++ r) = .ok (fraction, r) := by
  cases fraction
  case none =>
    cases r
    case nil => rfl
    case cons c r => simp [fractionDigits, fractionSource, (hr c rfl).2]
  case some ds =>
    simp only [fractionSource, Option.map_some, Option.getD_some, List.cons_append, fractionDigits]
    rw [digits_append (h ds rfl) fun c hc => (hr c hc).1]
    rfl

theorem fractionDigits_eq_ok {fraction : Option (List Char)}
    (h : fractionDigits s = .ok (fraction, r)) :
    (∀ ds ∈ fraction, AreDigits ds) ∧ s = fractionSource fraction ++ r := by
  unfold fractionDigits at h
  split at h
  case h_1 s =>
    obtain ⟨⟨ds, s⟩, hd, he⟩ := map_eq_ok.mp h
    cases he
    have ⟨hd, hs⟩ := digits_eq_ok hd
    refine ⟨?_, by rw [hs]; rfl⟩
    rintro _ ⟨⟩
    exact hd
  case h_2 =>
    cases h
    exact ⟨nofun, rfl⟩

theorem exponentPart_append {exponent : Option Exponent} (h : ∀ e ∈ exponent, e.IsProper)
    (hr : EndsNumeral r) : exponentPart (exponentSource exponent ++ r) = .ok (exponent, r) := by
  have hr' : ∀ c ∈ r.head?, c.isDigit = false := fun c hc => (hr c hc).1
  cases exponent
  case none =>
    cases r
    case nil => rfl
    case cons c r =>
      have ⟨_, _, he, hE⟩ := hr c rfl
      simp [exponentPart, exponentSource, he, hE]
  case some e =>
    have ⟨hm, hs, hd⟩ := h e rfl
    obtain ⟨mark, sign, ds⟩ := e
    have hm : (mark == 'e' || mark == 'E') = true := by simpa using hm
    simp only [exponentSource, Exponent.source, Option.map_some, Option.getD_some,
      List.cons_append, List.append_assoc, exponentPart, hm, if_true]
    cases sign
    case some c =>
      have hc : (c == '+' || c == '-') = true := by simpa using hs c rfl
      simp [hc, digits_append hd hr', Except.map]
    case none =>
      cases ds
      case nil => exact absurd rfl hd.1
      case cons d ds =>
        have hc : (d == '+' || d == '-') = false := by
          have hdd := hd.2 d (.head _)
          by_contra hc
          simp only [Bool.not_eq_false, Bool.or_eq_true, beq_iff_eq] at hc
          rcases hc with rfl | rfl <;> cases hdd
        have := digits_append hd hr'
        simp only [List.cons_append] at this
        simp [hc, this, Except.map]

theorem exponentPart_eq_ok {exponent : Option Exponent}
    (h : exponentPart s = .ok (exponent, r)) :
    (∀ e ∈ exponent, e.IsProper) ∧ s = exponentSource exponent ++ r := by
  unfold exponentPart at h
  split at h
  case h_2 =>
    cases h
    exact ⟨nofun, rfl⟩
  case h_1 c s =>
    split at h
    case isFalse =>
      cases h
      exact ⟨nofun, rfl⟩
    case isTrue hc =>
      have hc : c = 'e' ∨ c = 'E' := by simpa using hc
      split at h
      case h_2 => cases h
      case h_1 d s =>
        split at h
        case isTrue hd =>
          have hd : d = '+' ∨ d = '-' := by simpa using hd
          obtain ⟨⟨ds, s⟩, hs, he⟩ := map_eq_ok.mp h
          cases he
          have ⟨hds, hs⟩ := digits_eq_ok hs
          refine ⟨?_, by rw [hs]; rfl⟩
          rintro _ ⟨⟩
          exact ⟨hc, by rintro _ ⟨⟩; exact hd, hds⟩
        case isFalse =>
          obtain ⟨⟨ds, s⟩, hs, he⟩ := map_eq_ok.mp h
          cases he
          have ⟨hds, hs⟩ := digits_eq_ok hs
          refine ⟨?_, by rw [hs]; rfl⟩
          rintro _ ⟨⟩
          exact ⟨hc, nofun, hds⟩

theorem exponentSource_head {exponent : Option Exponent} (h : ∀ e ∈ exponent, e.IsProper)
    (hr : EndsNumeral r) :
    ∀ c ∈ (exponentSource exponent ++ r).head?, c.isDigit = false ∧ c ≠ '.' := by
  cases exponent
  case none => exact fun c hc => ⟨(hr c hc).1, (hr c hc).2.1⟩
  case some e =>
    rintro _ ⟨⟩
    rcases (h e rfl).mark with hm | hm <;> rw [hm] <;> decide

theorem fractionSource_head {fraction : Option (List Char)}
    (hr : ∀ c ∈ r.head?, c.isDigit = false) :
    ∀ c ∈ (fractionSource fraction ++ r).head?, c.isDigit = false := by
  cases fraction
  case none => exact hr
  case some => rintro _ ⟨⟩; rfl

theorem numeral_append (h : n.IsProper) (hr : EndsNumeral r) :
    numeral n.negative (n.unsigned ++ r) = .ok (n, r) := by
  have he := exponentSource_head h.exponent hr
  have hf : ∀ c ∈ (fractionSource n.fraction ++ (exponentSource n.exponent ++ r)).head?,
      c.isDigit = false := fractionSource_head fun c hc => (he c hc).1
  simp only [numeral, Numeral.unsigned, List.append_assoc, wholeDigits_append h.whole h.leading hf,
    fractionDigits_append h.fraction he, exponentPart_append h.exponent hr, bind, Except.bind]
  rfl

theorem numeral_eq_ok (h : numeral negative s = .ok (n, r)) :
    n.IsProper ∧ n.negative = negative ∧ s = n.unsigned ++ r := by
  obtain ⟨⟨whole, _⟩, hw, h⟩ := bind_eq_ok.mp h
  obtain ⟨⟨fraction, _⟩, hf, h⟩ := bind_eq_ok.mp h
  obtain ⟨⟨exponent, _⟩, he, h⟩ := bind_eq_ok.mp h
  cases h
  have ⟨hd, hz, hw⟩ := wholeDigits_eq_ok hw
  have ⟨hfd, hf⟩ := fractionDigits_eq_ok hf
  have ⟨hed, he⟩ := exponentPart_eq_ok he
  refine ⟨⟨hd, hz, hfd, hed⟩, rfl, ?_⟩
  simp [Numeral.unsigned, hw, hf, he]

section Defects

variable {t : Tree}

theorem skim_ne_none_of_digits (h : digits s = .error t) : t.skim ≠ none := by
  unfold digits at h
  split at h
  case h_1 => cases h; nofun
  case h_2 => split at h <;> cases h; nofun

theorem skim_ne_none_of_wholeDigits (h : wholeDigits s = .error t) : t.skim ≠ none := by
  unfold wholeDigits at h
  split at h
  case h_1 => split at h <;> cases h; nofun
  case h_2 => exact skim_ne_none_of_digits h

theorem skim_ne_none_of_fractionDigits (h : fractionDigits s = .error t) : t.skim ≠ none := by
  unfold fractionDigits at h
  split at h
  case h_1 => exact skim_ne_none_of_digits (map_eq_error.mp h)
  case h_2 => cases h

theorem skim_ne_none_of_exponentPart (h : exponentPart s = .error t) : t.skim ≠ none := by
  unfold exponentPart at h
  split at h
  case h_2 => cases h
  case h_1 c s =>
    split at h
    case isFalse => cases h
    case isTrue =>
      split at h
      case h_2 => cases h; nofun
      case h_1 d s =>
        split at h <;> exact skim_ne_none_of_digits (map_eq_error.mp h)

theorem skim_ne_none_of_numeral (h : numeral negative s = .error t) : t.skim ≠ none := by
  obtain hw | ⟨⟨_, s⟩, _, h⟩ := bind_eq_error.mp h
  · exact skim_ne_none_of_wholeDigits hw
  obtain hf | ⟨⟨_, s⟩, _, h⟩ := bind_eq_error.mp h
  · exact skim_ne_none_of_fractionDigits hf
  obtain he | ⟨_, _, h⟩ := bind_eq_error.mp h
  · exact skim_ne_none_of_exponentPart he
  cases h

end Defects

theorem ofNumeral_append (h : n.IsProper) (hr : EndsNumeral r) :
    Tree.ofNumeral (numeral n.negative (n.unsigned ++ r)) = (.number n, r) := by
  rw [numeral_append h hr]
  rfl

theorem ofNumeral_eq {t : Tree} (h : Tree.ofNumeral (numeral negative s) = (t, r))
    (ht : t.skim = none) :
    ∃ n : Numeral, t = .number n ∧ n.IsProper ∧ n.negative = negative ∧ s = n.unsigned ++ r := by
  cases hp : numeral negative s <;> rw [hp] at h <;> cases h
  case error => exact absurd ht (skim_ne_none_of_numeral hp)
  case ok p => exact ⟨p.1, rfl, numeral_eq_ok hp⟩

end Numerals

section Quotes

variable {r s : List Char} {q : Quoted}

def Piece.IsProper : Piece → Prop
  | plain c      => 32 ≤ c.toNat ∧ c ≠ '"' ∧ c ≠ '\\'
  | escaped c    => c ∈ escapeLetters
  | unit a b c d => ∀ x ∈ [a, b, c, d], Text.Hex.isDigit x

structure Quoted.IsProper (q : Quoted) : Prop where
  pieces : ∀ p ∈ q.pieces, p.IsProper
  closed : q.fault = none

-- What is written of a quoted text behind its opening quote.
def Quoted.opened (q : Quoted) : List Char :=
  q.pieces.flatMap Piece.source ++ ['"']

theorem Quoted.source_eq (h : q.fault = none) : q.source = '"' :: q.opened := by
  simp [source, opened, h]

theorem Quoted.read_piece {p : Piece} (h : p.IsProper) :
    Quoted.read (p.source ++ s) =
      (⟨p :: (Quoted.read s).1.pieces, (Quoted.read s).1.fault⟩, (Quoted.read s).2) := by
  cases p
  case plain c =>
    have ⟨hc, hq, hb⟩ := h
    simp [Piece.source, Quoted.read, hb, Nat.not_lt_of_le hc]
  case escaped c =>
    have hu : c ≠ 'u' := by
      rintro rfl
      exact absurd (show 'u' ∈ escapeLetters from h) (by decide)
    have hc : escapeLetters.contains c = true := List.contains_iff_mem.mpr h
    simp only [Piece.source, List.cons_append, List.nil_append]
    rw [Quoted.read]
    · simp only [hc, if_true]
    · exact fun _ _ _ _ _ he => absurd he hu
    · exact hu
  case unit a b c d =>
    have hd : [a, b, c, d].all Text.Hex.isDigit = true := List.all_eq_true.mpr h
    simp only [Piece.source, List.cons_append, List.nil_append, Quoted.read, hd, if_true]

theorem Quoted.read_append (h : q.IsProper) : Quoted.read (q.opened ++ r) = (q, r) := by
  obtain ⟨pieces, fault⟩ := q
  obtain ⟨hp, hf⟩ := h
  cases hf
  simp only [opened, List.append_assoc]
  induction pieces
  case nil => rfl
  case cons p ps hi =>
    rw [List.forall_mem_cons] at hp
    rw [List.flatMap_cons, List.append_assoc, read_piece hp.1, hi hp.2]

theorem Quoted.read_eq (h : Quoted.read s = (q, r)) (hf : q.fault = none) :
    q.IsProper ∧ s = q.opened ++ r := by
  fun_induction Quoted.read s generalizing q r
  case case2 s => cases h; exact ⟨⟨nofun, rfl⟩, rfl⟩
  case case3 a b c d s hd q' r' hq hi =>
    cases h
    have ⟨⟨hp, _⟩, hs⟩ := hi hq hf
    refine ⟨⟨List.forall_mem_cons.mpr ⟨List.all_eq_true.mp hd, hp⟩, hf⟩, ?_⟩
    simp [hs, opened, Piece.source]
  case case7 c s _ _ hc q' r' hq hi =>
    cases h
    have ⟨⟨hp, _⟩, hs⟩ := hi hq hf
    refine ⟨⟨List.forall_mem_cons.mpr ⟨List.contains_iff_mem.mp hc, hp⟩, hf⟩, ?_⟩
    simp [hs, opened, Piece.source]
  case case10 c s hq _ _ hb hb' hc q' r' hq' hi =>
    cases h
    have ⟨⟨hp, _⟩, hs⟩ := hi hq' hf
    have hb : c ≠ '\\' := by
      intro he
      obtain _ | ⟨d, s⟩ := s
      · exact hb he rfl
      · exact hb' d s he rfl
    refine ⟨⟨List.forall_mem_cons.mpr ⟨⟨Nat.le_of_not_lt hc, hq, hb⟩, hp⟩, hf⟩, ?_⟩
    simp [hs, opened, Piece.source]
  all_goals cases h; cases hf

end Quotes

end Outbox.Json

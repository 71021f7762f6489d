import Mathlib.Data.List.DropRight
import Outbox.Proofs.Json.Source
/-!
The texts that are JSON: those of trees without defects, with blanks around them. They are the texts
that are read, and every one of them is read as the tree that it is the text of.
-/

namespace Outbox.Json

open Text (span_append)

variable {α : Type} {b r s : List Char} {t u : Tree} {decode : Tree → Except Fault α} {a : α}

-- A text of the grammar of JSON, with blanks around it.
def IsText (s : List Char) : Prop :=
  ∃ (b : Blank) (t : Tree) (r : Blank),
    AreBlank b ∧ t.IsProper ∧ AreBlank r ∧ s = b ++ (t.source ++ r)

-- The text without the blanks at its two ends.
def unpadded (s : List Char) : List Char :=
  (s.dropWhile isBlank).rdropWhile isBlank

mutual

theorem Tree.IsProper.skim_eq (t : Tree) (h : t.IsProper) : t.skim = none := by
  match t with
  | .null | .bool _ | .number _ => rfl
  | .text q => exact h.closed
  | .array inside items => exact Items.IsProper.skim_eq items h.2.2
  | .object inside members => exact Members.IsProper.skim_eq members h.2.2

theorem Items.IsProper.skim_eq (is : Items) (h : is.IsProper) : is.skim = none := by
  match is with
  | .close => rfl
  | .item before value after rest =>
    exact Items.skim_item_eq_none_iff.mpr
      ⟨Tree.IsProper.skim_eq value h.2.1, Items.IsProper.skim_eq rest h.2.2.2⟩

theorem Members.IsProper.skim_eq (ms : Members) (h : ms.IsProper) : ms.skim = none := by
  match ms with
  | .close => rfl
  | .member before key afterKey beforeValue value after rest =>
    have ⟨_, hk, _, _, hv, _, hr⟩ := h
    exact Members.skim_member_eq_none_iff.mpr
      ⟨hk.closed, Tree.IsProper.skim_eq value hv, Members.IsProper.skim_eq rest hr⟩

end

theorem endsNumeral_of_areBlank (h : AreBlank r) : EndsNumeral r := by
  intro c hc
  have hb := h c (List.mem_of_mem_head? hc)
  simp only [isBlank, Bool.or_eq_true, beq_iff_eq] at hb
  rcases hb with ((rfl | rfl) | rfl) | rfl <;> decide

theorem dropWhile_of_areBlank (h : AreBlank r) : r.dropWhile isBlank = [] := by
  simpa using (span_append h (r := []) nofun).2

-- What is decoded of a text is what is decoded of its tree.
theorem parse_source (hb : AreBlank b) (ht : t.IsProper) (hr : AreBlank r) :
    parse decode (b ++ (t.source ++ r)) = decode t := by
  have ⟨_, hd⟩ := ht.span_blanks (r := r) hb
  have hf : 2 * t.source.length ≤ enoughFuel (t.source ++ r) := by
    simp only [enoughFuel, List.length_append]
    omega
  simp only [parse, hd, Tree.read_source t ht hf (endsNumeral_of_areBlank hr),
    dropWhile_of_areBlank hr]
  cases decode t <;> rfl

-- A decoder that accepts no defects only sees trees without any.
theorem parse_eq_ok (hd : ∀ t a, decode t = .ok a → t.skim = none) (h : parse decode s = .ok a) :
    ∃ b t r, AreBlank b ∧ t.IsProper ∧ AreBlank r ∧ s = b ++ (t.source ++ r) ∧
      decode t = .ok a := by
  cases hr : Tree.read (enoughFuel (s.dropWhile isBlank)) (s.dropWhile isBlank)
  case mk t r =>
  simp only [parse, hr] at h
  obtain ⟨a', ha, h⟩ := bind_eq_ok.mp h
  split at h
  case isFalse => cases h
  case isTrue he =>
    cases h
    have ⟨ht, hs⟩ := (ReadsWell.all _).tree hr (hd t a ha)
    have hb : r = r.takeWhile isBlank := by
      have := eq_blanks_append (s := r) (List.isEmpty_iff.mp he)
      rwa [List.append_nil] at this
    exact ⟨_, t, r, areBlank_takeWhile s, ht, hb ▸ areBlank_takeWhile r, eq_blanks_append hs, ha⟩

theorem parseTree_eq_ok_iff :
    parseTree s = .ok t ↔
      ∃ b r, AreBlank b ∧ t.IsProper ∧ AreBlank r ∧ s = b ++ (t.source ++ r) := by
  constructor
  case mp =>
    intro h
    refine (parse_eq_ok (fun u v hu => ?_) h).elim fun b ⟨u, r, hb, hu, hr, hs, he⟩ => ?_
    case refine_1 => split at hu <;> [cases hu; assumption]
    case refine_2 =>
      rw [hu.skim_eq] at he
      cases he
      exact ⟨b, r, hb, hu, hr, hs⟩
  case mpr =>
    intro ⟨b, r, hb, ht, hr, hs⟩
    rw [hs, parseTree, parse_source hb ht hr, ht.skim_eq]

theorem exists_parseTree_iff : (∃ t, parseTree s = .ok t) ↔ IsText s := by
  simp only [parseTree_eq_ok_iff, IsText]
  exact ⟨fun ⟨t, b, r, h⟩ => ⟨b, t, r, h⟩, fun ⟨b, t, r, h⟩ => ⟨t, b, r, h⟩⟩

-- A text has one tree.
theorem source_inj (ht : t.IsProper) (hu : u.IsProper) (h : t.source = u.source) : t = u := by
  have hr : Tree.read (2 * t.source.length) (t.source ++ []) = (t, []) :=
    Tree.read_source t ht (Nat.le_refl _) nofun
  have hs : Tree.read (2 * t.source.length) (u.source ++ []) = (u, []) :=
    Tree.read_source u hu (by rw [h]) nofun
  rw [h] at hr hs
  exact (Prod.mk.inj (hr.symm.trans hs)).1

section Ends

theorem AreDigits.exists_last {ds : List Char} (h : AreDigits ds) :
    ∃ s c, ds = s ++ [c] ∧ c.isDigit :=
  ⟨_, _, (List.dropLast_append_getLast h.1).symm, h.2 _ (List.getLast_mem h.1)⟩

theorem Exponent.exists_last {e : Exponent} (h : e.IsProper) :
    ∃ s c, e.source = s ++ [c] ∧ c.isDigit := by
  have ⟨s, c, hs, hc⟩ := h.digits.exists_last
  exact ⟨e.mark :: (e.sign.toList ++ s), c, by simp [source, hs], hc⟩

theorem Numeral.exists_last {n : Numeral} (h : n.IsProper) :
    ∃ s c, n.source = s ++ [c] ∧ c.isDigit := by
  obtain ⟨negative, whole, fraction, exponent⟩ := n
  rw [source_eq, unsigned]
  cases exponent
  case some e =>
    obtain ⟨s, c, hs, hc⟩ := Exponent.exists_last (h.exponent e rfl)
    refine ⟨(if negative then ['-'] else []) ++ (whole ++ (fractionSource fraction ++ s)), c, ?_,
      hc⟩
    simp [exponentSource, hs]
  case none =>
    cases fraction
    case some ds =>
      obtain ⟨s, c, hs, hc⟩ := (h.fraction ds rfl).exists_last
      refine ⟨(if negative then ['-'] else []) ++ (whole ++ '.' :: s), c, ?_, hc⟩
      simp [fractionSource, exponentSource, hs]
    case none =>
      obtain ⟨s, c, hs, hc⟩ := h.whole.exists_last
      refine ⟨(if negative then ['-'] else []) ++ s, c, ?_, hc⟩
      simp [fractionSource, exponentSource, ← hs]

theorem Items.exists_last (is : Items) (h : is.IsProper) : ∃ s, is.source = s ++ [']'] := by
  match is with
  | .close => exact ⟨[], rfl⟩
  | .item before value after rest =>
    have ⟨s, hs⟩ := Items.exists_last rest h.2.2.2
    exact ⟨before ++ value.source ++ after ++ rest.comma ++ s, by simp [source, hs]⟩

theorem Members.exists_last (ms : Members) (h : ms.IsProper) : ∃ s, ms.source = s ++ ['}'] := by
  match ms with
  | .close => exact ⟨[], rfl⟩
  | .member before key afterKey beforeValue value after rest =>
    have ⟨s, hs⟩ := Members.exists_last rest h.2.2.2.2.2.2
    exact ⟨before ++ key.source ++ afterKey ++ ':' :: beforeValue ++ value.source ++ after
      ++ rest.comma ++ s, by simp [source, hs]⟩

theorem isBlank_of_isDigit {c : Char} (h : c.isDigit) : isBlank c = false := by
  have := startsValue_of_isDigit h
  simp only [startsValue, Bool.and_eq_true, Bool.not_eq_true'] at this
  exact this.1.1.1

theorem Tree.exists_last (h : t.IsProper) : ∃ s c, t.source = s ++ [c] ∧ isBlank c = false := by
  cases t
  case null => exact ⟨"nul".toList, 'l', by decide, rfl⟩
  case bool b =>
    cases b
    case false => exact ⟨"fals".toList, 'e', by decide, rfl⟩
    case true => exact ⟨"tru".toList, 'e', by decide, rfl⟩
  case number n =>
    obtain ⟨s, c, hs, hc⟩ := Numeral.exists_last h
    exact ⟨s, c, hs, isBlank_of_isDigit hc⟩
  case text q =>
    exact ⟨'"' :: q.pieces.flatMap Piece.source, '"', by
      simp [source, Quoted.source_eq h.closed, Quoted.opened], rfl⟩
  case array inside items =>
    obtain ⟨s, hs⟩ := items.exists_last h.2.2
    exact ⟨'[' :: (inside ++ s), ']', by simp [source, hs], rfl⟩
  case object inside members =>
    obtain ⟨s, hs⟩ := members.exists_last h.2.2
    exact ⟨'{' :: (inside ++ s), '}', by simp [source, hs], rfl⟩
  all_goals cases h

end Ends

-- Nothing but the blanks around it is taken from a value.
theorem unpadded_source (hb : AreBlank b) (ht : t.IsProper) (hr : AreBlank r) :
    unpadded (b ++ (t.source ++ r)) = t.source := by
  have ⟨s, c, hs, hc⟩ := Tree.exists_last ht
  have hr' : ∀ d ∈ r.reverse, isBlank d := fun d hd => hr d (List.mem_reverse.mp hd)
  have ⟨_, hd⟩ := ht.span_blanks (r := r) hb
  have ⟨_, hl⟩ := span_append (r := (s ++ [c]).reverse) hr' (by simpa using hc)
  rw [unpadded, hd, List.rdropWhile, List.reverse_append, hs, hl, List.reverse_reverse]

end Outbox.Json

import Mathlib.Tactic.Tauto
import Outbox.Proofs.Json.Scalar
/-!
Trees and their texts. The text of a tree without defects reads back as that tree, with nothing of
what is behind it; and a tree that is read without a defect has the text that it was read from.
-/

namespace Outbox.Json

open Text (span_append)

variable {fuel : Nat} {b r s : List Char} {t : Tree} {is : Items} {ms : Members}

def AreBlank (b : Blank) : Prop :=
  ∀ c ∈ b, isBlank c

theorem AreBlank.nil : AreBlank [] := nofun

mutual

-- A tree without defects. The blanks inside an array or object are those of an empty one.
def Tree.IsProper : Tree → Prop
  | .null                  => True
  | .bool _                => True
  | .number n              => n.IsProper
  | .text q                => q.IsProper
  | .array inside items    => AreBlank inside ∧ (inside = [] ∨ items = .close) ∧ items.IsProper
  | .object inside members => AreBlank inside ∧ (inside = [] ∨ members = .close) ∧ members.IsProper
  | .absent                => False
  | .cutNumber             => False
  | .broken _              => False

def Items.IsProper : Items → Prop
  | .close                        => True
  | .cut _                        => False
  | .dangling _                   => False
  | .item before value after rest =>
    AreBlank before ∧ value.IsProper ∧ AreBlank after ∧ rest.IsProper

def Members.IsProper : Members → Prop
  | .close        => True
  | .cut _        => False
  | .unkeyed _    => False
  | .unvalued _ _ => False
  | .member before key afterKey beforeValue value after rest =>
    AreBlank before ∧ key.IsProper ∧ AreBlank afterKey ∧ AreBlank beforeValue ∧ value.IsProper ∧
      AreBlank after ∧ rest.IsProper

end

-- Is it a character that a value can start with? It is told from what stands around values.
def startsValue (c : Char) : Bool :=
  !isBlank c && c != ']' && c != '}' && c != ','

theorem startsValue_of_isDigit {c : Char} (h : c.isDigit) : startsValue c := by
  have hn : ∀ d : Char, d.isDigit = false → c ≠ d := by
    rintro d hd rfl
    exact absurd h (by simp [hd])
  simp [startsValue, isBlank, hn]

theorem Tree.IsProper.exists_source (h : t.IsProper) :
    ∃ c s, t.source = c :: s ∧ startsValue c := by
  cases t
  case null => exact ⟨'n', "ull".toList, by decide, rfl⟩
  case bool b =>
    cases b
    case false => exact ⟨'f', "alse".toList, by decide, rfl⟩
    case true => exact ⟨'t', "rue".toList, by decide, rfl⟩
  case number n =>
    rw [source, Numeral.source_eq]
    cases n.negative
    case true => exact ⟨'-', _, rfl, rfl⟩
    case false =>
      have ⟨hn, hd⟩ := h.whole
      obtain ⟨d, ds, hw⟩ := List.exists_cons_of_ne_nil hn
      refine ⟨d, _, by simp [Numeral.unsigned, hw]; rfl, startsValue_of_isDigit (hd d ?_)⟩
      exact hw ▸ .head _
  case text q => exact ⟨'"', _, rfl, rfl⟩
  case array => exact ⟨'[', _, rfl, rfl⟩
  case object => exact ⟨'{', _, rfl, rfl⟩
  all_goals cases h

theorem Tree.IsProper.source_pos (h : t.IsProper) : 0 < t.source.length := by
  have ⟨c, s, hs, _⟩ := h.exists_source
  simp [hs]

theorem Items.IsProper.source_pos (h : is.IsProper) : 0 < is.source.length := by
  cases is
  case close => exact Nat.one_pos
  case item =>
    have := h.2.1.source_pos
    simp only [source, List.length_append]
    omega
  all_goals cases h

theorem Members.IsProper.source_pos (h : ms.IsProper) : 0 < ms.source.length := by
  cases ms
  case close => exact Nat.one_pos
  case member =>
    simp only [source, List.length_append, List.length_cons]
    omega
  all_goals cases h

-- Behind blanks a value is found.
theorem Tree.IsProper.span_blanks (h : t.IsProper) (hb : AreBlank b) :
    (b ++ (t.source ++ r)).takeWhile isBlank = b ∧
      (b ++ (t.source ++ r)).dropWhile isBlank = t.source ++ r := by
  have ⟨c, s, hs, hc⟩ := h.exists_source
  refine span_append hb ?_
  rw [hs]
  rintro _ ⟨⟩
  simp only [startsValue, Bool.and_eq_true, Bool.not_eq_true'] at hc
  exact hc.1.1.1

-- Behind blanks, or at once, comes a comma or the end of an array or object.
def EndsValue (s : List Char) : Prop :=
  ∃ b c r, AreBlank b ∧ (c = ',' ∨ c = ']' ∨ c = '}') ∧ s = b ++ c :: r

theorem EndsValue.endsNumeral (h : EndsValue s) : EndsNumeral s := by
  obtain ⟨b, c, r, hb, hc, rfl⟩ := h
  cases b
  case nil =>
    rintro _ ⟨⟩
    rcases hc with rfl | rfl | rfl <;> decide
  case cons d b =>
    rintro _ ⟨⟩
    have hd := hb d (.head _)
    simp only [isBlank, Bool.or_eq_true, beq_iff_eq] at hd
    rcases hd with ((rfl | rfl) | rfl) | rfl <;> decide

theorem expect_append {word : List Char} : expect word t (word ++ r) = (t, r) := by
  induction word
  case nil => cases r <;> rfl
  case cons c word hi => simp [expect, hi]

theorem Tree.read_numeral {n : Numeral} (h : n.IsProper) (hr : EndsNumeral r) :
    Tree.read (fuel + 1) (n.source ++ r) = (.number n, r) := by
  have hn := ofNumeral_append h hr
  rw [Numeral.source_eq]
  cases hs : n.negative
  case true =>
    rw [hs] at hn
    simp only [if_true, List.cons_append, List.nil_append, Tree.read, hn]
  case false =>
    rw [hs] at hn
    have ⟨hw, hd⟩ := h.whole
    obtain ⟨d, ds, hw⟩ := List.exists_cons_of_ne_nil hw
    have hd : d.isDigit := hd d (hw ▸ .head _)
    obtain ⟨s, hs⟩ : ∃ s, n.unsigned ++ r = d :: s := ⟨_, by simp [Numeral.unsigned, hw]; rfl⟩
    simp only [Bool.false_eq_true, if_false, List.nil_append] at hn ⊢
    rw [hs] at hn ⊢
    rw [Tree.read]
    · simp only [hd, if_true, hn]
    all_goals rintro rfl; cases hd

theorem Items.read_last {before after : Blank} (hb : AreBlank before) (ha : AreBlank after)
    (ht : t.IsProper)
    (hr : ∀ r, EndsNumeral r → Tree.read fuel (t.source ++ r) = (t, r)) :
    Items.read (fuel + 1) (before ++ (t.source ++ (after ++ ']' :: r))) =
      (.item before t after .close, r) := by
  have ⟨hw, hd⟩ := ht.span_blanks (r := after ++ ']' :: r) hb
  have ⟨haw, had⟩ := span_append (r := ']' :: r) ha (by rintro _ ⟨⟩; rfl)
  have hr := hr (after ++ ']' :: r) (EndsValue.endsNumeral ⟨after, ']', r, ha, by simp, rfl⟩)
  simp only [Items.read, hw, hd, hr, haw, had]

theorem Items.read_item {before after : Blank} (hb : AreBlank before) (ha : AreBlank after)
    (ht : t.IsProper)
    (hr : ∀ r, EndsNumeral r → Tree.read fuel (t.source ++ r) = (t, r))
    (hs : ∃ c s', s.dropWhile isBlank = c :: s' ∧ c ≠ ']') :
    Items.read (fuel + 1) (before ++ (t.source ++ (after ++ ',' :: s))) =
      (.item before t after (Items.read fuel s).1, (Items.read fuel s).2) := by
  have ⟨hw, hd⟩ := ht.span_blanks (r := after ++ ',' :: s) hb
  have ⟨haw, had⟩ := span_append (r := ',' :: s) ha (by rintro _ ⟨⟩; rfl)
  have hr := hr (after ++ ',' :: s) (EndsValue.endsNumeral ⟨after, ',', s, ha, by simp, rfl⟩)
  obtain ⟨c, s', hs, hc⟩ := hs
  simp only [Items.read, hw, hd, hr, haw, had, hs]
  split
  case h_1 he => cases he
  case h_2 he => cases he; exact absurd rfl hc
  case h_3 => rfl

section Members

variable {before afterKey beforeValue after : Blank} {key : Quoted}

-- A member up to the blanks behind its value.
theorem Members.read_value (hb : AreBlank before) (hk : key.IsProper) (hak : AreBlank afterKey)
    (hbv : AreBlank beforeValue) (ht : t.IsProper) (ha : AreBlank after) {c : Char}
    (hc : c = ',' ∨ c = '}')
    (hr : ∀ r, EndsNumeral r → Tree.read fuel (t.source ++ r) = (t, r)) :
    Members.read (fuel + 1) (before ++ (key.source ++ (afterKey ++ ':' :: (beforeValue ++
        (t.source ++ (after ++ c :: s)))))) =
      if c = ',' then
        (.member before key afterKey beforeValue t after (Members.read fuel s).1,
          (Members.read fuel s).2)
      else (.member before key afterKey beforeValue t after .close, s) := by
  have ⟨hw, hd⟩ := span_append (r := key.source ++ (afterKey ++ ':' :: (beforeValue ++
    (t.source ++ (after ++ c :: s))))) hb (by rintro _ ⟨⟩; rfl)
  have ⟨hkw, hkd⟩ := span_append (r := ':' :: (beforeValue ++ (t.source ++ (after ++ c :: s)))) hak
    (by rintro _ ⟨⟩; rfl)
  have ⟨hvw, hvd⟩ := ht.span_blanks (r := after ++ c :: s) hbv
  have ⟨haw, had⟩ := span_append (r := c :: s) ha (by rintro _ ⟨⟩; rcases hc with rfl | rfl <;> rfl)
  have hr := hr (after ++ c :: s) (EndsValue.endsNumeral ⟨after, c, s, ha, by tauto, rfl⟩)
  rw [Quoted.source_eq hk.closed, List.cons_append] at hw hd
  rw [Quoted.source_eq hk.closed, List.cons_append]
  simp only [Members.read, hw, hd, Quoted.read_append hk, hkw, hkd, hvw, hvd, hr,
    haw, had]
  rcases hc with rfl | rfl <;> rfl

end Members

-- Items start with a value, behind blanks.
theorem Items.dropWhile_source {before after : Blank} {rest : Items}
    (h : (item before t after rest).IsProper) :
    ∃ c s, ((item before t after rest).source ++ r).dropWhile isBlank = c :: s ∧ startsValue c := by
  have ⟨hb, ht, _⟩ := h
  have ⟨c, s, hs, hc⟩ := ht.exists_source
  have ⟨_, hd⟩ := ht.span_blanks (r := after ++ (rest.comma ++ (rest.source ++ r))) hb
  refine ⟨c, s ++ (after ++ (rest.comma ++ (rest.source ++ r))), ?_, hc⟩
  simpa only [source, List.append_assoc, hs, List.cons_append] using hd

theorem Members.dropWhile_source {before afterKey beforeValue after : Blank} {key : Quoted}
    {rest : Members}
    (h : (member before key afterKey beforeValue t after rest).IsProper) :
    ∃ s, ((member before key afterKey beforeValue t after rest).source ++ r).dropWhile isBlank =
      '"' :: s := by
  have ⟨hb, hk, _⟩ := h
  have hd := fun s => (span_append (r := '"' :: s) hb (by rintro _ ⟨⟩; rfl)).2
  simp only [source, Quoted.source_eq hk.closed, List.append_assoc, List.cons_append, hd]
  exact ⟨_, rfl⟩

mutual

-- Twice as many steps as there are characters are enough.
theorem Tree.read_source (t : Tree) (ht : t.IsProper) {fuel : Nat} {r : List Char}
    (hf : 2 * t.source.length ≤ fuel) (hr : EndsNumeral r) :
    Tree.read fuel (t.source ++ r) = (t, r) := by
  obtain _ | fuel := fuel
  · have := ht.source_pos
    omega
  match t with
  | .null => exact expect_append
  | .bool true => exact expect_append
  | .bool false => exact expect_append
  | .number n => exact Tree.read_numeral ht hr
  | .text q =>
    simp only [Tree.source, Quoted.source_eq ht.closed, List.cons_append, Tree.read,
      Quoted.read_append ht]
  | .array inside .close =>
    have ⟨hw, hd⟩ := span_append (r := ']' :: r) ht.1 (by rintro _ ⟨⟩; rfl)
    simp only [Tree.source, Items.source, List.cons_append, List.append_assoc, List.nil_append,
      Tree.read, hw, hd]
  | .array inside (.item before value after rest) =>
    have ⟨_, hi, hp⟩ := ht
    obtain rfl : inside = [] := by simpa using hi
    have ⟨c, s, hs, hc⟩ := Items.dropWhile_source (r := r) hp
    simp only [Tree.source, List.nil_append, List.cons_append, Tree.read, hs]
    split
    case h_1 he => cases he; cases hc
    case h_2 he => cases he
    case h_3 =>
      have hf : 2 * (Items.item before value after rest).source.length ≤ fuel := by
        simp only [Tree.source, List.length_cons, List.length_append] at hf ⊢
        omega
      rw [Items.read_source _ hp nofun hf]
  | .object inside .close =>
    have ⟨hw, hd⟩ := span_append (r := '}' :: r) ht.1 (by rintro _ ⟨⟩; rfl)
    simp only [Tree.source, Members.source, List.cons_append, List.append_assoc, List.nil_append,
      Tree.read, hw, hd]
  | .object inside (.member before key afterKey beforeValue value after rest) =>
    have ⟨_, hi, hp⟩ := ht
    obtain rfl : inside = [] := by simpa using hi
    have ⟨s, hs⟩ := Members.dropWhile_source (r := r) hp
    simp only [Tree.source, List.nil_append, List.cons_append, Tree.read, hs]
    have hf : 2 * (Members.member before key afterKey beforeValue value after rest).source.length
        ≤ fuel := by
      simp only [Tree.source, List.length_cons, List.length_append] at hf ⊢
      omega
    simp [Members.read_source _ hp nofun hf]

theorem Items.read_source (is : Items) (hi : is.IsProper) (hn : is ≠ .close) {fuel : Nat}
    {r : List Char} (hf : 2 * is.source.length ≤ fuel) :
    Items.read fuel (is.source ++ r) = (is, r) := by
  match is with
  | .close => exact absurd rfl hn
  | .item before value after rest =>
    have ⟨hb, hv, ha, hp⟩ := hi
    simp only [Items.source, List.length_append] at hf
    have := hp.source_pos
    obtain _ | fuel := fuel
    · omega
    have hr : ∀ r, EndsNumeral r → Tree.read fuel (value.source ++ r) = (value, r) :=
      fun _ hr => Tree.read_source value hv (by omega) hr
    match rest with
    | .close =>
      simpa only [Items.source, Items.comma, List.append_assoc, List.nil_append, List.cons_append]
        using Items.read_last hb ha hv hr
    | .item before' value' after' rest' =>
      have ⟨c, s, hs, hc⟩ := Items.dropWhile_source (r := r) hp
      have hf : 2 * (Items.item before' value' after' rest').source.length ≤ fuel := by
        simp only [Items.comma, List.length_singleton] at hf
        omega
      have hi := Items.read_item hb ha hv hr ⟨c, s, hs, by rintro rfl; cases hc⟩
      rw [Items.read_source _ hp nofun hf] at hi
      rw [← hi]
      simp only [Items.source, Items.comma, List.append_assoc, List.nil_append, List.cons_append]

theorem Members.read_source (ms : Members) (hm : ms.IsProper) (hn : ms ≠ .close) {fuel : Nat}
    {r : List Char} (hf : 2 * ms.source.length ≤ fuel) :
    Members.read fuel (ms.source ++ r) = (ms, r) := by
  match ms with
  | .close => exact absurd rfl hn
  | .member before key afterKey beforeValue value after rest =>
    have ⟨hb, hk, hak, hbv, hv, ha, hp⟩ := hm
    simp only [Members.source, List.length_append, List.length_cons] at hf
    have := hp.source_pos
    obtain _ | fuel := fuel
    · omega
    have hr : ∀ r, EndsNumeral r → Tree.read fuel (value.source ++ r) = (value, r) :=
      fun _ hr => Tree.read_source value hv (by omega) hr
    match rest with
    | .close =>
      have h := Members.read_value (s := r) hb hk hak hbv hv ha (.inr rfl) hr
      simpa [Members.source, Members.comma] using h
    | .member before' key' afterKey' beforeValue' value' after' rest' =>
      have hf : 2 * (Members.member before' key' afterKey' beforeValue' value' after'
          rest').source.length ≤ fuel := by
        simp only [Members.comma, List.length_singleton] at hf
        omega
      have h := Members.read_value (s := (Members.member before' key' afterKey' beforeValue' value'
        after' rest').source ++ r) hb hk hak hbv hv ha (.inl rfl) hr
      rw [Members.read_source _ hp nofun hf, if_pos rfl] at h
      rw [← h]
      simp only [Members.source, Members.comma, List.append_assoc, List.nil_append,
        List.cons_append]

end

theorem expect_eq {word : List Char} {u : Tree} (h : expect word u s = (t, r))
    (ht : t.skim = none) : t = u ∧ s = word ++ r := by
  induction word generalizing s
  case nil => cases s <;> cases h <;> exact ⟨rfl, rfl⟩
  case cons c word hi =>
    cases s
    case nil => cases h; cases ht
    case cons d s =>
      unfold expect at h
      split at h
      case isTrue hc =>
        have ⟨hu, hs⟩ := hi h
        exact ⟨hu, by rw [hs, hc]; rfl⟩
      case isFalse => cases h; cases ht

theorem areBlank_takeWhile (s : List Char) : AreBlank (s.takeWhile isBlank) :=
  fun _ hc => List.mem_takeWhile_imp hc

theorem eq_blanks_append {u : List Char} (h : s.dropWhile isBlank = u) :
    s = s.takeWhile isBlank ++ u :=
  h ▸ List.takeWhile_append_dropWhile.symm

theorem Items.skim_item_eq_none_iff {before after : Blank} {rest : Items} :
    (item before t after rest).skim = none ↔ t.skim = none ∧ rest.skim = none :=
  Option.or_eq_none_iff

theorem Members.skim_member_eq_none_iff {before afterKey beforeValue after : Blank} {key : Quoted}
    {rest : Members} :
    (member before key afterKey beforeValue t after rest).skim = none ↔
      key.fault = none ∧ t.skim = none ∧ rest.skim = none := by
  simp only [skim, Option.or_eq_none_iff]

theorem Members.skim_unkeyed (stray : Tree) : (unkeyed stray).skim ≠ none := by
  cases stray <;> nofun

-- What is read without a defect is proper and has the text that was read. Items and members do not
-- end where they begin.
structure ReadsWell (fuel : Nat) : Prop where
  tree    : ∀ {s t r}, Tree.read fuel s = (t, r) → t.skim = none →
    t.IsProper ∧ s = t.source ++ r
  items   : ∀ {s is r}, Items.read fuel s = (is, r) → is.skim = none →
    is.IsProper ∧ is.comma = [','] ∧ s = is.source ++ r
  members : ∀ {s ms r}, Members.read fuel s = (ms, r) → ms.skim = none →
    ms.IsProper ∧ ms.comma = [','] ∧ s = ms.source ++ r

namespace ReadsWell

theorem items_succ (hw : ReadsWell fuel) (h : Items.read (fuel + 1) s = (is, r))
    (hs : is.skim = none) : is.IsProper ∧ is.comma = [','] ∧ s = is.source ++ r := by
  cases hv : Tree.read fuel (s.dropWhile isBlank)
  case mk value u =>
  simp only [Items.read, hv] at h
  have hb := areBlank_takeWhile s
  have ha := areBlank_takeWhile u
  split at h
  case h_1 r' hu =>
    split at h
    case h_3 =>
      cases hr : Items.read fuel r'
      case mk rest r'' =>
      rw [hr] at h
      cases h
      have ⟨hvs, hrs⟩ := Items.skim_item_eq_none_iff.mp hs
      have ⟨hvp, hve⟩ := hw.tree hv hvs
      have ⟨hrp, hc, hre⟩ := hw.items hr hrs
      refine ⟨⟨hb, hvp, ha, hrp⟩, rfl, ?_⟩
      calc
        s = s.takeWhile isBlank ++ (value.source ++ u) := eq_blanks_append hve
        _ = s.takeWhile isBlank ++ (value.source ++ (u.takeWhile isBlank ++ ',' :: r')) := by
          rw [← eq_blanks_append hu]
        _ = _ := by simp [Items.source, hc, hre]
    all_goals cases h; simp [Items.skim] at hs
  case h_2 r' hu =>
    cases h
    have ⟨hvs, _⟩ := Items.skim_item_eq_none_iff.mp hs
    have ⟨hvp, hve⟩ := hw.tree hv hvs
    refine ⟨⟨hb, hvp, ha, trivial⟩, rfl, ?_⟩
    calc
      s = s.takeWhile isBlank ++ (value.source ++ u) := eq_blanks_append hve
      _ = s.takeWhile isBlank ++ (value.source ++ (u.takeWhile isBlank ++ ']' :: r)) := by
        rw [← eq_blanks_append hu]
      _ = _ := by simp [Items.source, Items.comma]
  all_goals cases h; simp [Items.skim] at hs

theorem members_succ (hw : ReadsWell fuel) (h : Members.read (fuel + 1) s = (ms, r))
    (hs : ms.skim = none) : ms.IsProper ∧ ms.comma = [','] ∧ s = ms.source ++ r := by
  rw [Members.read] at h
  split at h
  case h_2 =>
    cases h
    exact absurd hs (Members.skim_unkeyed _)
  case h_1 u hq =>
    cases hk : Quoted.read u
    case mk key u' =>
    simp only [hk] at h
    split at h
    case h_1 v hc =>
      cases hv : Tree.read fuel (v.dropWhile isBlank)
      case mk value w =>
      simp only [hv] at h
      have hb := areBlank_takeWhile s
      have hak := areBlank_takeWhile u'
      have hbv := areBlank_takeWhile v
      have ha := areBlank_takeWhile w
      -- the text up to the blanks behind the value
      have prior {x : List Char} (hks : key.fault = none) (hvs : value.skim = none)
          (hw' : w.dropWhile isBlank = x) :
          key.IsProper ∧ value.IsProper ∧
          s = s.takeWhile isBlank ++ (key.source ++ (u'.takeWhile isBlank ++ ':' ::
            (v.takeWhile isBlank ++ (value.source ++ (w.takeWhile isBlank ++ x))))) := by
        have ⟨hkp, hke⟩ := Quoted.read_eq hk hks
        have ⟨hvp, hve⟩ := hw.tree hv hvs
        refine ⟨hkp, hvp, ?_⟩
        calc
          s = s.takeWhile isBlank ++ '"' :: u := eq_blanks_append hq
          _ = s.takeWhile isBlank ++ (key.source ++ u') := by simp [Quoted.source_eq hks, hke]
          _ = _ := by rw [← eq_blanks_append hw', ← hve, ← eq_blanks_append rfl,
            ← eq_blanks_append hc]
      split at h
      case h_1 y hy =>
        cases hr : Members.read fuel y
        case mk rest r' =>
        rw [hr] at h
        cases h
        have ⟨hks, hvs, hrs⟩ := Members.skim_member_eq_none_iff.mp hs
        have ⟨hkp, hvp, he⟩ := prior hks hvs hy
        have ⟨hrp, hcm, hre⟩ := hw.members hr hrs
        refine ⟨⟨hb, hkp, hak, hbv, hvp, ha, hrp⟩, rfl, he.trans ?_⟩
        simp [Members.source, hcm, hre]
      case h_2 y hy =>
        cases h
        have ⟨hks, hvs, _⟩ := Members.skim_member_eq_none_iff.mp hs
        have ⟨hkp, hvp, he⟩ := prior hks hvs hy
        refine ⟨⟨hb, hkp, hak, hbv, hvp, ha, trivial⟩, rfl, he.trans ?_⟩
        simp [Members.source, Members.comma]
      all_goals cases h; simp [Members.skim] at hs
    all_goals cases h; simp [Members.skim] at hs

theorem tree_succ (hw : ReadsWell fuel) (h : Tree.read (fuel + 1) s = (t, r))
    (hs : t.skim = none) : t.IsProper ∧ s = t.source ++ r := by
  unfold Tree.read at h
  split at h
  case h_1 => cases h; cases hs
  case h_2 s =>
    obtain ⟨rfl, rfl⟩ := expect_eq h hs
    exact ⟨trivial, rfl⟩
  case h_3 s =>
    obtain ⟨rfl, rfl⟩ := expect_eq h hs
    exact ⟨trivial, rfl⟩
  case h_4 s =>
    obtain ⟨rfl, rfl⟩ := expect_eq h hs
    exact ⟨trivial, rfl⟩
  case h_5 s =>
    cases h
    have ⟨hq, he⟩ := Quoted.read_eq (s := s) rfl hs
    exact ⟨hq, by rw [Tree.source, Quoted.source_eq hs, List.cons_append, ← he]⟩
  case h_6 s =>
    obtain ⟨n, rfl, hn, hneg, rfl⟩ := ofNumeral_eq h hs
    exact ⟨hn, by simp [Tree.source, Numeral.source_eq, hneg]⟩
  case h_7 s =>
    split at h
    case h_1 r hb =>
      cases h
      refine ⟨⟨areBlank_takeWhile s, .inr rfl, trivial⟩, ?_⟩
      simpa [Tree.source, Items.source] using eq_blanks_append hb
    case h_2 => cases h; cases hs
    case h_3 =>
      cases h
      have ⟨hp, _, he⟩ := hw.items (s := s) rfl hs
      exact ⟨⟨nofun, .inl rfl, hp⟩, by simp [Tree.source, ← he]⟩
  case h_8 s =>
    split at h
    case h_1 r hb =>
      cases h
      refine ⟨⟨areBlank_takeWhile s, .inr rfl, trivial⟩, ?_⟩
      simpa [Tree.source, Members.source] using eq_blanks_append hb
    case h_2 => cases h; cases hs
    case h_3 =>
      cases h
      have ⟨hp, _, he⟩ := hw.members (s := s) rfl hs
      exact ⟨⟨nofun, .inl rfl, hp⟩, by simp [Tree.source, ← he]⟩
  case h_9 c s _ _ _ _ _ _ _ =>
    split at h
    case isFalse => cases h; cases hs
    case isTrue =>
      obtain ⟨n, rfl, hn, hneg, he⟩ := ofNumeral_eq h hs
      exact ⟨hn, by simp [Tree.source, Numeral.source_eq, hneg, he]⟩

theorem all (fuel : Nat) : ReadsWell fuel := by
  induction fuel
  case zero => constructor <;> intro _ _ _ h hs <;> cases h <;> cases hs
  case succ fuel hi => exact ⟨hi.tree_succ, hi.items_succ, hi.members_succ⟩

end ReadsWell

end Outbox.Json

import Outbox.Json.Value
import Outbox.Proofs.Json.Language
/-!
The limits to which values keep: how deep they are nested, how large their numbers are and how their
units pair up. A text is read into a value exactly if it is JSON within these limits.
-/

namespace Outbox.Json

section Units

def Piece.IsLeading (p : Piece) : Prop :=
  ∃ n, p.value = .inr n ∧ isLeadingHalf n

def Piece.IsTrailing (p : Piece) : Prop :=
  ∃ n, p.value = .inr n ∧ isTrailingHalf n

-- Halves stand in pairs, a leading one before a trailing one.
inductive ArePaired : List Piece → Prop where
  | nil : ArePaired []
  | whole {p : Piece} {ps : List Piece} (hl : ¬p.IsLeading) (ht : ¬p.IsTrailing)
      (h : ArePaired ps) : ArePaired (p :: ps)
  | pair {p q : Piece} {ps : List Piece} (hp : p.IsLeading) (hq : q.IsTrailing)
      (h : ArePaired ps) : ArePaired (p :: q :: ps)

variable {ps : List Piece} {fault : Option Fault} {lead : Option Nat} {cs : List Char} {q : Quoted}
  {s : String}

-- A leading half that waits is one that stands before the pieces.
theorem arePaired_of_decodePieces (h : decodePieces fault lead ps = .ok cs) :
    fault = none ∧ cs.length ≤ ps.length ∧ (lead = none → ArePaired ps) ∧
      ∀ p : Piece, lead.isSome → p.IsLeading → ArePaired (p :: ps) := by
  fun_induction decodePieces fault lead ps generalizing cs
  case case1 hf =>
    cases h
    exact ⟨hf, Nat.le_refl _, fun _ => .nil, nofun⟩
  case case4 p ps c hc hi =>
    obtain ⟨cs, hd, rfl⟩ := map_eq_ok.mp h
    have ⟨hf, hl, hp, _⟩ := hi hd
    have hw : ¬p.IsLeading ∧ ¬p.IsTrailing := by simp [Piece.IsLeading, Piece.IsTrailing, hc]
    exact ⟨hf, Nat.succ_le_succ hl, fun _ => .whole hw.1 hw.2 (hp rfl), nofun⟩
  case case6 p ps n hn ht hl hi =>
    have ⟨hf, hlen, _, hp⟩ := hi h
    exact ⟨hf, Nat.le_succ_of_le hlen, fun _ => hp p rfl ⟨n, hn, hl⟩, nofun⟩
  case case7 p ps n hn ht hl hi =>
    obtain ⟨cs, hd, rfl⟩ := map_eq_ok.mp h
    have ⟨hf, hlen, hp, _⟩ := hi hd
    have hw : ¬p.IsLeading ∧ ¬p.IsTrailing := by
      simp [Piece.IsLeading, Piece.IsTrailing, hn, ht, hl]
    exact ⟨hf, Nat.succ_le_succ hlen, fun _ => .whole hw.1 hw.2 (hp rfl), nofun⟩
  case case9 lead p ps n hn ht hi =>
    obtain ⟨cs, hd, rfl⟩ := map_eq_ok.mp h
    have ⟨hf, hlen, hp, _⟩ := hi hd
    exact ⟨hf, Nat.succ_le_succ hlen, nofun, fun _ _ hl => .pair hl ⟨n, hn, ht⟩ (hp rfl)⟩
  all_goals cases h

theorem exists_decodePieces (h : ArePaired ps) : ∃ cs, decodePieces none none ps = .ok cs := by
  induction h
  case nil => exact ⟨[], rfl⟩
  case whole p ps hl ht h hi =>
    obtain ⟨cs, hcs⟩ := hi
    cases hv : p.value
    case inl c => exact ⟨c :: cs, by simp [decodePieces, hv, hcs, Except.map]⟩
    case inr n =>
      have hl : isLeadingHalf n = false := by simpa [Piece.IsLeading, hv] using hl
      have ht : isTrailingHalf n = false := by simpa [Piece.IsTrailing, hv] using ht
      exact ⟨Char.ofNat n :: cs, by simp [decodePieces, hv, hl, ht, hcs, Except.map]⟩
  case pair p q ps hp hq h hi =>
    obtain ⟨cs, hcs⟩ := hi
    obtain ⟨n, hn, hl⟩ := hp
    obtain ⟨k, hk, ht⟩ := hq
    have hnt : isTrailingHalf n = false := by
      simp only [isLeadingHalf, isTrailingHalf, Bool.and_eq_true, decide_eq_true_eq,
        Bool.and_eq_false_iff, decide_eq_false_iff_not] at hl ⊢
      omega
    exact ⟨joinHalves n k :: cs, by simp [decodePieces, hn, hl, hnt, hk, ht, hcs, Except.map]⟩

-- Can the text be told from how it is written?
def Quoted.IsDecodable (q : Quoted) : Prop :=
  q.fault = none ∧ ArePaired q.pieces

theorem Quoted.exists_decode_iff : (∃ s, q.decode = .ok s) ↔ q.IsDecodable := by
  refine exists_map_eq_ok.trans ⟨?mp, ?mpr⟩
  case mp =>
    rintro ⟨cs, h⟩
    obtain ⟨hf, _, hp, _⟩ := arePaired_of_decodePieces h
    exact ⟨hf, hp rfl⟩
  case mpr =>
    rintro ⟨hf, hp⟩
    rw [hf]
    exact exists_decodePieces hp

theorem Quoted.fault_of_decode (h : q.decode = .ok s) : q.fault = none :=
  (exists_decode_iff.mp ⟨s, h⟩).1

-- What is quoted is shorter than how it is quoted.
theorem Quoted.length_lt_of_decode (h : q.decode = .ok s) : s.length < q.source.length := by
  obtain ⟨cs, hd, rfl⟩ := map_eq_ok.mp h
  obtain ⟨_, hl, _⟩ := arePaired_of_decodePieces hd
  have hp : q.pieces.length ≤ (q.pieces.flatMap Piece.source).length := by
    induction q.pieces
    case nil => exact Nat.le_refl _
    case cons p ps hi =>
      have : 0 < p.source.length := by cases p <;> exact Nat.succ_pos _
      simp only [List.flatMap_cons, List.length_append, List.length_cons]
      omega
  simp only [String.length_ofList, source, List.length_append, List.length_cons]
  omega

end Units

section Values

variable {inner : String → Except Fault Value} {embedded embedded' : String → Prop} {room n : Nat}
  {s : String} {t : Tree} {is : Items} {ms : Members}

-- Is it a number that can be kept?
def Numeral.InRange (n : Numeral) : Prop :=
  ∃ x, Number.ofNumeral n = .ok x

-- Do the members begin with the key for a value that is held as a text?
def Members.AreMarked : Members → Prop
  | .member _ key .. => key.decode = .ok Value.embeddingKey
  | _                => False

-- Are they that key with a text of those that are `embedded`, and nothing else?
def Members.Embed (embedded : String → Prop) : Members → Prop
  | .member _ key _ _ (.text q) _ .close =>
    key.decode = .ok Value.embeddingKey ∧ ∃ s, q.decode = .ok s ∧ embedded s
  | _ => False

mutual

-- Does the value keep to the limits, with `room` for that many levels?
def Tree.Fits (embedded : String → Prop) (room : Nat) : Tree → Prop
  | .null     => True
  | .bool _   => True
  | .number n => n.InRange
  | .text q   => q.IsDecodable
  | .array _ items =>
    match room with
    | 0        => False
    | room + 1 => items.Fit embedded room
  | .object _ members =>
    match room with
    | 0        => False
    | room + 1 => members.Embed embedded ∨ (¬members.AreMarked ∧ members.Fit embedded room)
  | .absent    => False
  | .cutNumber => False
  | .broken _  => False

def Items.Fit (embedded : String → Prop) (room : Nat) : Items → Prop
  | .close               => True
  | .cut _               => False
  | .dangling _          => False
  | .item _ value _ rest => value.Fits embedded room ∧ rest.Fit embedded room

def Members.Fit (embedded : String → Prop) (room : Nat) : Members → Prop
  | .close        => True
  | .cut _        => False
  | .unkeyed _    => False
  | .unvalued _ _ => False
  | .member _ key _ _ value _ rest =>
    key.IsDecodable ∧ value.Fits embedded room ∧ rest.Fit embedded room

end

theorem Members.embedded?_eq_none_iff : ms.embedded? inner = none ↔ ¬ms.AreMarked := by
  cases ms
  case member before key afterKey beforeValue value after rest =>
    cases hk : key.decode <;> simp [embedded?, AreMarked, hk]
  all_goals simp [embedded?, AreMarked]

theorem Members.Embed.areMarked (h : ms.Embed embedded) : ms.AreMarked := by
  unfold Embed at h
  split at h
  case h_1 => exact h.1
  case h_2 => cases h

theorem Members.exists_embedded?_iff (hi : ∀ s, (∃ v, inner s = .ok v) ↔ embedded s) :
    (∃ v, ms.embedded? inner = some (.ok v)) ↔ ms.Embed embedded := by
  cases ms
  case member before key afterKey beforeValue value after rest =>
    by_cases hk : key.decode = .ok Value.embeddingKey
    case pos =>
      cases value
      case text q =>
        cases hs : q.decode
        case error => cases rest <;> simp [embedded?, Embed, hk, Tree.text?, hs, bind, Except.bind]
        case ok s =>
          have := hi s
          cases rest <;> cases hv : inner s <;> simp_all [embedded?, Embed, Tree.text?, bind,
            Except.bind, Except.mapError, pure, Except.pure, throw, throwThe, MonadExceptOf.throw]
      all_goals simp [embedded?, Embed, hk, Tree.text?, bind, Except.bind]
    case neg =>
      have he : ¬(member before key afterKey beforeValue value after rest).Embed embedded :=
        fun h => hk h.areMarked
      have hn : (member before key afterKey beforeValue value after rest).embedded? inner = none :=
        embedded?_eq_none_iff.mpr hk
      simp [he, hn]
  all_goals simp [embedded?, Embed]

mutual

theorem Tree.exists_value_iff (hi : ∀ s, (∃ v, inner s = .ok v) ↔ embedded s) (t : Tree)
    (room : Nat) : (∃ v, t.value inner room = .ok v) ↔ t.Fits embedded room := by
  match t, room with
  | .null, _ | .bool _, _ => simp [Tree.value, Tree.Fits]
  | .number n, _ => exact exists_map_eq_ok
  | .text q, _ => exact exists_map_eq_ok.trans Quoted.exists_decode_iff
  | .array _ items, 0 => simp [Tree.value, Tree.Fits]
  | .array _ items, room + 1 => exact exists_map_eq_ok.trans (Items.exists_values_iff hi items room)
  | .object _ members, 0 => simp [Tree.value, Tree.Fits]
  | .object _ members, room + 1 =>
    have hr := Members.exists_values_iff hi members room
    have he : (∃ v, members.embedded? inner = some (.ok v)) ↔ members.Embed embedded :=
      Members.exists_embedded?_iff hi
    cases hm : members.embedded? inner
    case none =>
      have hn := Members.embedded?_eq_none_iff.mp hm
      have he : ¬members.Embed embedded := fun h => hn h.areMarked
      simp only [Tree.value, hm, Tree.Fits, he, hn, not_false_eq_true, true_and, false_or]
      exact exists_map_eq_ok.trans hr
    case some v =>
      have hn : members.AreMarked := by
        by_contra h
        rw [Members.embedded?_eq_none_iff.mpr h] at hm
        cases hm
      simp only [Tree.value, hm, Tree.Fits, hn, not_true_eq_false, false_and, or_false, ← he,
        Option.some.injEq]
  | .absent, _ | .cutNumber, _ | .broken _, _ => simp [Tree.value, Tree.Fits]

theorem Items.exists_values_iff (hi : ∀ s, (∃ v, inner s = .ok v) ↔ embedded s) (is : Items)
    (room : Nat) : (∃ vs, is.values inner room = .ok vs) ↔ is.Fit embedded room := by
  match is with
  | .close | .cut _ | .dangling _ => simp [Items.values, Items.Fit]
  | .item _ value _ rest =>
    rw [Items.Fit, ← Tree.exists_value_iff hi value room, ← Items.exists_values_iff hi rest room]
    cases hv : value.value inner room <;> cases hr : rest.values inner room <;>
      simp [Items.values, hv, hr, bind, Except.bind, pure, Except.pure]

theorem Members.exists_values_iff (hi : ∀ s, (∃ v, inner s = .ok v) ↔ embedded s) (ms : Members)
    (room : Nat) : (∃ kvs, ms.values inner room = .ok kvs) ↔ ms.Fit embedded room := by
  match ms with
  | .close | .cut _ => simp [Members.values, Members.Fit]
  | .unkeyed stray => cases stray <;> simp [Members.values, Members.Fit]
  | .unvalued key fault =>
    cases hk : key.decode <;> simp [Members.values, Members.Fit, hk, bind, Except.bind, throw,
      throwThe, MonadExceptOf.throw]
  | .member _ key _ _ value _ rest =>
    rw [Members.Fit, ← Quoted.exists_decode_iff, ← Tree.exists_value_iff hi value room,
      ← Members.exists_values_iff hi rest room]
    cases hk : key.decode <;> cases hv : value.value inner room <;>
      cases hr : rest.values inner room <;>
      simp [Members.values, hk, hv, hr, bind, Except.bind, pure, Except.pure]

end

theorem Members.Embed.skim_eq (h : ms.Embed embedded) : ms.skim = none := by
  unfold Embed at h
  split at h
  case h_1 =>
    obtain ⟨hk, s, hs, _⟩ := h
    exact skim_member_eq_none_iff.mpr ⟨Quoted.fault_of_decode hk, Quoted.fault_of_decode hs, rfl⟩
  case h_2 => cases h

mutual

theorem Tree.Fits.skim_eq {room : Nat} (t : Tree) (h : t.Fits embedded room) : t.skim = none := by
  match t, room with
  | .null, _ | .bool _, _ | .number _, _ => rfl
  | .text q, _ => exact h.1
  | .array _ items, room + 1 => exact Items.Fit.skim_eq items h
  | .object _ members, room + 1 =>
    cases h
    case inl h => exact h.skim_eq
    case inr h => exact Members.Fit.skim_eq members h.2

theorem Items.Fit.skim_eq {room : Nat} (is : Items) (h : is.Fit embedded room) :
    is.skim = none := by
  match is with
  | .close => rfl
  | .item _ value _ rest =>
    exact Items.skim_item_eq_none_iff.mpr
      ⟨Tree.Fits.skim_eq value h.1, Items.Fit.skim_eq rest h.2⟩

theorem Members.Fit.skim_eq {room : Nat} (ms : Members) (h : ms.Fit embedded room) :
    ms.skim = none := by
  match ms with
  | .close => rfl
  | .member _ key _ _ value _ rest =>
    exact Members.skim_member_eq_none_iff.mpr
      ⟨h.1.1, Tree.Fits.skim_eq value h.2.1, Members.Fit.skim_eq rest h.2.2⟩

end

theorem Members.Embed.mono (h : ms.Embed embedded) (hn : ms.source.length ≤ n)
    (hi : ∀ s, s.length < n → embedded s → embedded' s) : ms.Embed embedded' := by
  unfold Embed at h
  split at h
  case h_1 before key afterKey beforeValue q after =>
    obtain ⟨hk, s, hs, he⟩ := h
    refine ⟨hk, s, hs, hi s ?_ he⟩
    have := Quoted.length_lt_of_decode hs
    simp only [source, Tree.source, List.length_append, List.length_cons] at hn
    omega
  case h_2 => cases h

mutual

-- Only texts that are shorter than the value count.
theorem Tree.Fits.mono {room : Nat}
    (hi : ∀ s, s.length < n → embedded s → embedded' s) (t : Tree)
    (hn : t.source.length ≤ n) (h : t.Fits embedded room) : t.Fits embedded' room := by
  match t, room with
  | .null, _ | .bool _, _ => trivial
  | .number _, _ | .text _, _ => exact h
  | .array _ items, room + 1 =>
    refine Items.Fit.mono hi items ?_ h
    simp only [Tree.source, List.length_append, List.length_cons] at hn
    omega
  | .object _ members, room + 1 =>
    have hn : members.source.length ≤ n := by
      simp only [Tree.source, List.length_append, List.length_cons] at hn
      omega
    cases h
    case inl h => exact .inl (h.mono hn hi)
    case inr h => exact .inr ⟨h.1, Members.Fit.mono hi members hn h.2⟩

theorem Items.Fit.mono {room : Nat}
    (hi : ∀ s, s.length < n → embedded s → embedded' s) (is : Items)
    (hn : is.source.length ≤ n) (h : is.Fit embedded room) : is.Fit embedded' room := by
  match is with
  | .close => trivial
  | .item _ value _ rest =>
    simp only [Items.source, List.length_append] at hn
    exact ⟨Tree.Fits.mono hi value (by omega) h.1, Items.Fit.mono hi rest (by omega) h.2⟩

theorem Members.Fit.mono {room : Nat}
    (hi : ∀ s, s.length < n → embedded s → embedded' s) (ms : Members)
    (hn : ms.source.length ≤ n) (h : ms.Fit embedded room) : ms.Fit embedded' room := by
  match ms with
  | .close => trivial
  | .member _ key _ _ value _ rest =>
    simp only [Members.source, List.length_append, List.length_cons] at hn
    exact ⟨h.1, Tree.Fits.mono hi value (by omega) h.2.1, Members.Fit.mono hi rest (by omega) h.2.2⟩

end

end Values

section Documents

variable {depth depth' : Nat} {s : String} {t : Tree}

-- JSON that keeps to the limits, with texts embedded in each other fewer than `depth` times.
def IsDocumentWithin : Nat → String → Prop
  | 0, _         => False
  | depth + 1, s =>
    ∃ t, parseTree s.toList = .ok t ∧ t.Fits (IsDocumentWithin depth) Value.greatestDepth

def IsDocument (s : String) : Prop :=
  ∃ depth, IsDocumentWithin depth s

-- A value that keeps to the limits, and so do those in the texts that it holds.
def Tree.IsBounded (t : Tree) : Prop :=
  t.Fits IsDocument Value.greatestDepth

theorem exists_parseWithin_iff :
    (∃ v, Value.parseWithin depth s = .ok v) ↔ IsDocumentWithin depth s := by
  induction depth generalizing s
  case zero => simp [Value.parseWithin, IsDocumentWithin]
  case succ depth hi =>
    have hv := Tree.exists_value_iff (fun s => hi (s := s))
    constructor
    case mp =>
      intro ⟨v, h⟩
      have hd : ∀ t v, Tree.value (Value.parseWithin depth) Value.greatestDepth t = .ok v →
          t.skim = none := fun t v ht => ((hv t _).mp ⟨v, ht⟩).skim_eq
      obtain ⟨b, t, r, hb, ht, hr, hs, he⟩ := parse_eq_ok hd h
      exact ⟨t, parseTree_eq_ok_iff.mpr ⟨b, r, hb, ht, hr, hs⟩, (hv t _).mp ⟨v, he⟩⟩
    case mpr =>
      intro ⟨t, ht, hf⟩
      obtain ⟨b, r, hb, ht, hr, hs⟩ := parseTree_eq_ok_iff.mp ht
      obtain ⟨v, hv⟩ := (hv t _).mpr hf
      exact ⟨v, by rw [Value.parseWithin, hs, parse_source hb ht hr, hv]⟩

theorem IsDocumentWithin.of_length (h : IsDocumentWithin depth s) (hs : s.length < depth') :
    IsDocumentWithin depth' s := by
  induction depth generalizing s depth'
  case zero => cases h
  case succ depth hi =>
    obtain _ | depth' := depth'
    case zero => cases hs
    case succ =>
      obtain ⟨t, ht, hf⟩ := h
      obtain ⟨b, r, _, _, _, he⟩ := parseTree_eq_ok_iff.mp ht
      have hn : t.source.length ≤ s.length := by
        simp only [← String.length_toList, he, List.length_append]
        omega
      exact ⟨t, ht, Tree.Fits.mono (fun _ hs' h' => hi h' (by omega)) t hn hf⟩

theorem exists_parse_iff : (∃ v, Value.parse s = .ok v) ↔ IsDocument s := by
  rw [Value.parse, exists_parseWithin_iff]
  exact ⟨fun h => ⟨_, h⟩, fun ⟨_, h⟩ => h.of_length (Nat.lt_succ_self _)⟩

theorem isDocument_iff : IsDocument s ↔ ∃ t, parseTree s.toList = .ok t ∧ t.IsBounded := by
  constructor
  case mp =>
    rintro ⟨_ | depth, h⟩
    case zero => cases h
    case succ =>
      obtain ⟨t, ht, hf⟩ := h
      exact ⟨t, ht, Tree.Fits.mono (fun _ _ h => ⟨depth, h⟩) t (Nat.le_refl _) hf⟩
  case mpr =>
    rintro ⟨t, ht, hf⟩
    have hi : ∀ s : String, s.length < t.source.length → IsDocument s →
        IsDocumentWithin t.source.length s := fun _ hs ⟨_, h⟩ => h.of_length hs
    exact ⟨t.source.length + 1, t, ht, Tree.Fits.mono hi t (Nat.le_refl _) hf⟩

theorem isDocument_render_iff (ht : t.IsProper) : IsDocument t.render ↔ t.IsBounded := by
  have hp : parseTree t.render.toList = .ok t :=
    parseTree_eq_ok_iff.mpr ⟨[], [], .nil, ht, .nil, by simp [Tree.render]⟩
  simp [isDocument_iff, hp]

end Documents

end Outbox.Json

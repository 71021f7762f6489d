import Outbox.Json.Tree
import Outbox.Text.Hex

namespace Outbox.Json

open Text

def unitValue (a b c d : Char) : Nat :=
  ((Hex.value a * 16 + Hex.value b) * 16 + Hex.value c) * 16 + Hex.value d

def isLeadingHalf (n : Nat) : Bool := 0xD800 ≤ n && n ≤ 0xDBFF
def isTrailingHalf (n : Nat) : Bool := 0xDC00 ≤ n && n ≤ 0xDFFF

def joinHalves (lead trail : Nat) : Char :=
  Char.ofNat (0x10000 + (lead - 0xD800) * 0x400 + (trail - 0xDC00))

def unescape : Char → Char
  | 'b' => '\x08'
  | 'f' => '\x0c'
  | 'n' => '\n'
  | 'r' => '\r'
  | 't' => '\t'
  | c   => c

def Piece.value : Piece → Char ⊕ Nat
  | plain c      => .inl c
  | escaped c    => .inl (unescape c)
  | unit a b c d => .inr (unitValue a b c d)

-- The characters of the pieces, up to the closing quote or the defect that stands in its place.
-- `lead` is a leading half that waits for its other one.
def decodePieces (fault : Option Fault) : Option Nat → List Piece → Except Fault (List Char)
  | none, [] =>
    match fault with
    | none => .ok []
    | some f => .error f
  | some _, [] => .error (fault.getD .malformed)
  | none, p :: ps =>
    match p.value with
    | .inl c => (decodePieces fault none ps).map (c :: ·)
    | .inr n =>
      if isTrailingHalf n then .error .malformed
      else if isLeadingHalf n then decodePieces fault (some n) ps
      else (decodePieces fault none ps).map (Char.ofNat n :: ·)
  | some lead, p :: ps =>
    match p.value with
    | .inl _ => .error .malformed
    | .inr n =>
      if isTrailingHalf n then (decodePieces fault none ps).map (joinHalves lead n :: ·)
      else .error .malformed

def Quoted.decode (q : Quoted) : Except Fault String :=
  (decodePieces q.fault none q.pieces).map String.ofList

-- A short escape where there is one, a unit for the other control characters, else the character
-- itself.
def Piece.ofChar (c : Char) : Piece :=
  match c with
  | '"'    => .escaped '"'
  | '\\'   => .escaped '\\'
  | '\x08' => .escaped 'b'
  | '\x0c' => .escaped 'f'
  | '\n'   => .escaped 'n'
  | '\r'   => .escaped 'r'
  | '\t'   => .escaped 't'
  | c      =>
    if c.toNat < 32 then .unit '0' '0' (Hex.digit (c.toNat / 16)) (Hex.digit (c.toNat % 16))
    else .plain c

def Quoted.ofString (s : String) : Quoted :=
  ⟨s.toList.map Piece.ofChar, none⟩

theorem decodePieces_ofChar (c : Char) (ps : List Piece) (fault : Option Fault) :
    decodePieces fault none (Piece.ofChar c :: ps) = (decodePieces fault none ps).map (c :: ·) := by
  unfold Piece.ofChar
  split
  case h_8 =>
    split
    case isTrue h =>
      have low : ∀ n : Fin 32, unitValue '0' '0' (Hex.digit (n / 16)) (Hex.digit (n % 16)) = n := by
        decide
      have hn := low ⟨c.toNat, h⟩
      have ht : isTrailingHalf c.toNat = false := by
        simp [isTrailingHalf]
        omega
      have hl : isLeadingHalf c.toNat = false := by
        simp [isLeadingHalf]
        omega
      simp only at hn
      simp [decodePieces, Piece.value, hn, ht, hl]
    case isFalse => rfl
  all_goals rfl

theorem decode_ofString (s : String) : (Quoted.ofString s).decode = .ok s := by
  have h : ∀ cs : List Char, decodePieces none none (cs.map Piece.ofChar) = .ok cs := by
    intro cs
    induction cs with
    | nil => rfl
    | cons c cs ih => simp [decodePieces_ofChar, ih, Except.map]
  simp [Quoted.decode, Quoted.ofString, h, Except.map]

end Outbox.Json

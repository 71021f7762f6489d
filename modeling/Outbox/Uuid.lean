import Outbox.Text.Hex

namespace Outbox

structure Uuid where
  bytes   : List UInt8
  size_eq : bytes.length = 16
  deriving DecidableEq

namespace Uuid

def ofBytes? (bytes : ByteArray) : Option Uuid :=
  if h : bytes.toList.length = 16 then some ⟨bytes.toList, h⟩ else none

def groups : List Nat := [8, 4, 4, 4, 12]

def grouped (digits : List Char) : List Nat → List (List Char)
  | []      => []
  | n :: ns => digits.take n :: grouped (digits.drop n) ns

def text (u : Uuid) : String :=
  String.ofList (List.intercalate ['-'] (grouped (Text.Hex.encode u.bytes) groups))

theorem text_ne_empty (u : Uuid) : u.text ≠ "" := by
  have h : '-' ∈ u.text.toList := by simp [text, groups, grouped, List.intercalate]
  intro he
  rw [he] at h
  cases h

def version (u : Uuid) : Nat :=
  (u.bytes[6]?.getD 0).toNat / 16

-- An identifier of sixteen random bytes: six of their bits are taken for the version, four, and
-- for the variant.
def ofRandom (u : Uuid) : Uuid where
  bytes   := (u.bytes.modify 6 fun b => b % 16 + 64).modify 8 fun b => b % 64 + 128
  size_eq := by simp [u.size_eq]

end Uuid

end Outbox

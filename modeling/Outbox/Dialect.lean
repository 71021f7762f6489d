namespace Outbox

-- One named field of a record `σ`: how its value is taken into the record. A field that is not
-- required keeps what the record has when the field is absent.
structure Field (ν ε σ : Type) where
  name     : String
  required : Bool
  read     : ν → σ → Except ε σ

structure Dialect (ν ε : Type) where
  text     : ν → Except ε String
  flag     : ν → Except ε Bool
  integer  : (least greatest : Int) → ν → Except ε Int
  choice   : {α : Type} → List (String × α) → ν → Except ε α
  optional : {α : Type} → (ν → Except ε α) → ν → Except ε (Option α)
  list     : {α : Type} → (ν → Except ε α) → ν → Except ε (List α)
  record   : {σ : Type} → List (Field ν ε σ) → σ → ν → Except ε σ

namespace Field

variable {ν ε σ : Type}

def defaulted (name : String) (read : ν → Except ε α) (set : α → σ → σ) : Field ν ε σ :=
  ⟨name, false, fun v s => (read v).map (set · s)⟩

def mandatory (name : String) (read : ν → Except ε α) (set : α → σ → σ) : Field ν ε σ :=
  ⟨name, true, fun v s => (read v).map (set · s)⟩

end Field

namespace Dialect

def word32 (d : Dialect ν ε) (v : ν) : Except ε UInt32 :=
  (d.integer 0 0xffffffff v).map fun i => UInt32.ofNat i.toNat

def word64 (d : Dialect ν ε) (v : ν) : Except ε UInt64 :=
  (d.integer 0 0xffffffffffffffff v).map fun i => UInt64.ofNat i.toNat

def signed64 (d : Dialect ν ε) (v : ν) : Except ε Int :=
  d.integer (-0x8000000000000000) 0x7fffffffffffffff v

end Dialect

end Outbox

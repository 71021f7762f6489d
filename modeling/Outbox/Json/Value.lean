import Outbox.Json.Grammar
import Outbox.Json.Number
import Outbox.Json.Quoted

namespace Outbox.Json

inductive Value where
  | null
  | bool (b : Bool)
  | number (n : Number)
  | text (s : String)
  | list (items : List Value)
  | object (members : List (String × Value))

namespace Value

def greatestDepth : Nat := 127

def insertMember (key : String) (value : Value) : List (String × Value) → List (String × Value)
  | [] => [(key, value)]
  | (k, v) :: rest =>
    if key = k then (key, value) :: rest
    else if key < k then (key, value) :: (k, v) :: rest
    else (k, v) :: insertMember key value rest

def ofMembers (members : List (String × Value)) : Value :=
  .object (members.foldl (fun ms (k, v) => insertMember k v ms) [])

def integer (i : Int) : Value := .number (.integer i)

-- The key of an object that stands for the value whose text it holds.
def embeddingKey : String := "$serde_json::private::RawValue"

end Value

-- What is wrong with a tree that has another shape than the one wanted: its own defect first, if
-- it is a scalar that has one.
def Tree.mismatch : Tree → Fault
  | .number n =>
    match Number.ofNumeral n with
    | .ok _ => .mismatched
    | .error fault => fault
  | .text q =>
    match q.decode with
    | .ok _ => .mismatched
    | .error fault => fault
  | .absent       => .cutShort
  | .cutNumber    => .cutShort
  | .broken fault => fault
  | _             => .mismatched

def Tree.text? : Tree → Except Fault String
  | .text q => q.decode
  | t       => .error t.mismatch

-- The value that members hold as a text, if they begin with the key for that. Nothing may follow
-- the text.
def Members.embedded? (inner : String → Except Fault Value) : Members → Option (Except Fault Value)
  | .member _ key _ _ value _ rest =>
    match key.decode with
    | .ok k =>
      if k = Value.embeddingKey then some do
        let v ← (inner (← value.text?)).mapError fun _ => .mismatched
        match rest with
        | .close     => return v
        | .cut fault => throw fault
        | _          => throw .malformed
      else none
    | .error _ => none
  | _ => none

mutual

-- The value of a tree, in which there is `room` for that many levels. What is embedded as a text
-- is read by `inner`.
def Tree.value (inner : String → Except Fault Value) (room : Nat) : Tree → Except Fault Value
  | .null        => .ok .null
  | .bool b      => .ok (.bool b)
  | .number n    => (Number.ofNumeral n).map .number
  | .text q      => q.decode.map .text
  | .array _ items =>
    match room with
    | 0 => .error .malformed
    | room + 1 => (items.values inner room).map .list
  | .object _ members =>
    match room with
    | 0 => .error .malformed
    | room + 1 =>
      match members.embedded? inner with
      | some v => v
      | none => (members.values inner room).map .ofMembers
  | .absent       => .error .cutShort
  | .cutNumber    => .error .cutShort
  | .broken fault => .error fault

def Items.values (inner : String → Except Fault Value) (room : Nat) :
    Items → Except Fault (List Value)
  | .close          => .ok []
  | .cut fault      => .error fault
  | .dangling fault => .error fault
  | .item _ value _ rest => do
    let v ← value.value inner room
    let vs ← rest.values inner room
    return v :: vs

def Members.values (inner : String → Except Fault Value) (room : Nat) :
    Members → Except Fault (List (String × Value))
  | .close           => .ok []
  | .cut fault       => .error fault
  | .unkeyed .absent => .error .cutShort
  | .unkeyed _       => .error .malformed
  | .unvalued key fault => do
    let _ ← key.decode
    throw fault
  | .member _ key _ _ value _ rest => do
    let k ← key.decode
    let v ← value.value inner room
    let kvs ← rest.values inner room
    return (k, v) :: kvs

end

namespace Value

def parseWithin (depth : Nat) (text : String) : Except Fault Value :=
  match depth with
  | 0 => .error .cutShort
  | depth + 1 => Json.parse (Tree.value (parseWithin depth) greatestDepth) text.toList

-- Reads a text that is one value. A text that is embedded in another is the shorter one, so that
-- its length is depth enough.
def parse (text : String) : Except Fault Value :=
  parseWithin (text.length + 1) text

mutual

def toTree : Value → Tree
  | .null           => .null
  | .bool b         => .bool b
  | .number n       => .number n.toNumeral
  | .text s         => .text (Quoted.ofString s)
  | .list items     => .array [] (toItems items)
  | .object members => .object [] (toMembers members)

def toItems : List Value → Items
  | []      => .close
  | v :: vs => .item [] v.toTree [] (toItems vs)

def toMembers : List (String × Value) → Members
  | []            => .close
  | (k, v) :: kvs => .member [] (Quoted.ofString k) [] [] v.toTree [] (toMembers kvs)

end

def render (v : Value) : String :=
  String.ofList v.toTree.source

end Value

def Tree.ofString (s : String) : Tree := .text (Quoted.ofString s)

def Items.ofList : List Tree → Items
  | []      => .close
  | t :: ts => .item [] t [] (ofList ts)

def Members.ofList : List (String × Tree) → Members
  | []            => .close
  | (k, t) :: kts => .member [] (Quoted.ofString k) [] [] t [] (ofList kts)

def Tree.list (items : List Tree) : Tree := .array [] (Items.ofList items)

def Tree.record (members : List (String × Tree)) : Tree := .object [] (Members.ofList members)

def Tree.render (t : Tree) : String := String.ofList t.source

end Outbox.Json

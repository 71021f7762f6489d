import Outbox.Decimal.Double
import Outbox.Text.Lowercase

namespace Outbox

inductive Setting where
  | nil
  | flag (b : Bool)
  | integer (i : Int)
  | float (x : Decimal.Double)
  | text (s : String)
  | list (items : List Setting)
  | table (entries : List (String × Setting))

namespace Setting

def leastInteger : Int := -0x8000000000000000
def greatestInteger : Int := 0x7fffffffffffffff

def replaceEntry (key : String) (value : Setting) :
    List (String × Setting) → List (String × Setting)
  | [] => [(key, value)]
  | (k, v) :: rest =>
    if k = key then (key, value) :: rest else (k, v) :: replaceEntry key value rest

def lower (s : String) : String := String.ofList (Text.lowercase s.toList)

-- Entries with keys in lower case. Of keys that differ in letter case only the last one counts, in
-- the order of characters.
def lowered (entries : List (String × Setting)) : List (String × Setting) :=
  let sorted := entries.mergeSort fun x y => !decide (y.1 < x.1)
  sorted.foldl (fun es (key, value) => replaceEntry (lower key) value es) []

def entries : Setting → List (String × Setting)
  | table entries => entries
  | _             => []

def get? (s : Setting) (key : String) : Option Setting := s.entries.lookup key

def entryOrEmpty (s : Setting) (key : String) : Setting := (s.get? key).getD (table [])

def items : Setting → List Setting
  | list items => items
  | _          => []

def withEntry (s : Setting) (key : String) (value : Setting) : Setting :=
  table (replaceEntry key value s.entries)

mutual

-- Puts a value under a key. A table is put entry by entry, so that other entries below the key
-- stay.
def put (target : Setting) (key : String) : Setting → Setting
  | table entries => target.withEntry key (putAll (target.entryOrEmpty key) entries)
  | value         => target.withEntry key value

def putAll (target : Setting) : List (String × Setting) → Setting
  | []                => target
  | (k, value) :: rest => putAll (put target k value) rest

end

-- Puts an item at a position of a list, which grows by empty items as far as that takes.
def replaceItem (value : Setting) : Nat → List Setting → List Setting
  | 0, []            => [value]
  | 0, _ :: rest     => value :: rest
  | n + 1, []        => nil :: replaceItem value n []
  | n + 1, v :: rest => v :: replaceItem value n rest

-- The position that a number means in a list; a negative one counts from the end.
def position (i : Int) (length : Nat) : Nat :=
  if 0 ≤ i then i.toNat else length - i.natAbs

def withItem (s : Setting) (i : Int) (value : Setting) : Setting :=
  list (replaceItem value (position i s.items.length) s.items)

inductive Step where
  | entry (key : String)
  | item (i : Int)
  deriving DecidableEq, Repr

def child (s : Setting) : Step → Setting
  | .entry key => (s.get? key).getD nil
  | .item i    => (s.items[position i s.items.length]?).getD nil

def withChild (s : Setting) : Step → Setting → Setting
  | .entry key, value => s.withEntry key value
  | .item i, value    => s.withItem i value

-- Puts a value at the end of several steps. Only at an entry tables are put entry by entry.
def putAt (target value : Setting) (step : Step) : List Step → Setting
  | [] =>
    match step with
    | .entry key => target.put key value
    | .item i    => target.withItem i value
  | next :: rest => target.withChild step ((target.child step).putAt value next rest)

theorem lookup_replaceEntry (key k : String) (value : Setting) (entries : List (String × Setting)) :
    (replaceEntry key value entries).lookup k =
      if k = key then some value else entries.lookup k := by
  induction entries with
  | nil =>
    by_cases h : k = key
    · simp [replaceEntry, h]
    · simp [replaceEntry, List.lookup_cons, h, beq_false_of_ne h]
  | cons e rest ih =>
    obtain ⟨k', v⟩ := e
    by_cases h' : k' = key
    · subst h'
      by_cases h : k = k'
      · simp [replaceEntry, h]
      · simp [replaceEntry, List.lookup_cons, h, beq_false_of_ne h]
    · by_cases h : k = k'
      · subst h
        simp [replaceEntry, h']
      · simp [replaceEntry, List.lookup_cons, h', ih, beq_false_of_ne h]

theorem get?_withEntry (s : Setting) (key k : String) (value : Setting) :
    (s.withEntry key value).get? k = if k = key then some value else s.get? k :=
  lookup_replaceEntry key k value s.entries

end Setting

end Outbox

import Outbox.Text.Alphanumeric

namespace Outbox.Dotenv

-- How the next character of a value is taken. Text in double quotes is `weak`.
inductive Mode where
  | text (weak : Bool)
  | escape (weak : Bool)
  | strong
  -- Behind a dollar sign.
  | name (weak : Bool) (name : List Char)
  -- Behind a dollar sign and a brace.
  | braced (weak : Bool) (name : List Char)
  -- Behind a blank that ends the value.
  | ended
  | comment

def escaped? (c : Char) : Option Char :=
  if c = 'n' then some '\n'
  else if ['\\', '\'', '"', '$', ' '].contains c then some c
  else none

namespace Mode

-- Takes a character, given the values of other variables: what it adds to the value, and how the
-- character behind it is taken.
def step (lookup : List Char → List Char) : Mode → Char → Option (List Char × Mode)
  | text weak, c =>
    if c = '$' then some ([], name weak [])
    else if c = '\\' then some ([], escape weak)
    else if c = '"' then some ([], text !weak)
    else if weak then some ([c], text true)
    else if c = '\'' then some ([], strong)
    else if c = ' ' ∨ c = '\t' then some ([], ended)
    else some ([c], text false)
  | escape weak, c => (escaped? c).map fun d => ([d], text weak)
  | strong, c => some (if c = '\'' then ([], text false) else ([c], strong))
  | name weak n, c =>
    if Text.isAlphanumeric c then some ([], name weak (n ++ [c]))
    else if c = '{' ∧ n.isEmpty then some ([], braced weak [])
    else if c = '$' then some (lookup n, name weak [])
    else some (lookup n ++ [c], text weak)
  | braced weak n, c =>
    some (if c = '}' then (lookup n, text weak) else ([], braced weak (n ++ [c])))
  | ended, c =>
    if c = ' ' ∨ c = '\t' then some ([], ended) else if c = '#' then some ([], comment) else none
  | comment, _ => some ([], comment)

-- What the end of the text adds to the value. All that was opened must be closed by then.
def finish? (lookup : List Char → List Char) : Mode → Option (List Char)
  | text weak   => if weak then none else some []
  | escape weak => if weak then none else some []
  | strong      => none
  | name weak n => if weak then none else some (lookup n)
  | braced _ _  => none
  | ended       => some []
  | comment     => some []

end Mode

def value? (lookup : List Char → List Char) (mode : Mode) : List Char → Option (List Char)
  | [] => mode.finish? lookup
  | c :: s => do
    let (added, mode) ← mode.step lookup c
    return added ++ (← value? lookup mode s)

example : value? id (.text false) "a'$b'\"$c;\" # d".toList = some "a$bc;".toList := by
  decide +kernel
example : value? id (.text false) "a b".toList = none := by decide +kernel

end Outbox.Dotenv

import Outbox.Text.Blank
import Outbox.Violation

namespace Outbox.Permission

structure Object where
  type : String
  id   : String
  deriving DecidableEq, Repr

structure Tuple where
  resource : Option Object := none
  subject  : Option Object := none
  relation : Option String := none
  deriving DecidableEq, Repr

def isObjectChar (c : Char) : Bool :=
  c != ':' && c != '#' && !Text.isBlank c

def isRelationChar (c : Char) : Bool :=
  isObjectChar c && c != '@'

-- A part is not empty and has none but allowed characters.
def isPart (allowed : Char → Bool) (s : List Char) : Bool :=
  !s.isEmpty && s.all allowed

def checkPart (allowed : Char → Bool) (field text : String) : Except Violation Unit :=
  if isPart allowed text.toList then .ok ()
  else .error (.invalidFormat field s!"'{text}' must be non-empty without ':', '#' or whitespace")

namespace Object

-- `role` is the part of the tuple in which the object stands.
def validate (role : String) (o : Object) : Except Violation Unit := do
  checkPart isObjectChar (role ++ ".type") o.type
  checkPart isObjectChar (role ++ ".id") o.id

def validateResource : Object → Except Violation Unit := validate "resource"
def validateSubject : Object → Except Violation Unit := validate "subject"

def blank : Object := ⟨"", ""⟩

end Object

def validateRelation (name : String) : Except Violation Unit :=
  checkPart isRelationChar "relation.name" name

def ifPresent (check : α → Except Violation Unit) : Option α → Except Violation Unit
  | none   => .ok ()
  | some a => check a

namespace Tuple

def validate (t : Tuple) : Except Violation Unit := do
  ifPresent Object.validateResource t.resource
  ifPresent Object.validateSubject t.subject
  ifPresent validateRelation t.relation

inductive Entry where
  | resourceType (text : String)
  | resourceId (text : String)
  | subjectType (text : String)
  | subjectId (text : String)
  | relation (name : String)
  deriving DecidableEq, Repr

-- Filling in half of an object makes it present; its other half is empty until it is given.
def set (t : Tuple) : Entry → Tuple
  | .resourceType text => { t with resource := some { t.resource.getD .blank with type := text } }
  | .resourceId text   => { t with resource := some { t.resource.getD .blank with id := text } }
  | .subjectType text  => { t with subject := some { t.subject.getD .blank with type := text } }
  | .subjectId text    => { t with subject := some { t.subject.getD .blank with id := text } }
  | .relation name     => { t with relation := some name }

def ofEntries (entries : List Entry) : Except Violation Tuple := do
  let t := entries.foldl set {}
  t.validate
  return t

end Tuple

structure Payload where
  tuples : List Tuple
  deriving DecidableEq, Repr

namespace Payload

def validate (p : Payload) : Except Violation Unit :=
  p.tuples.forM Tuple.validate

def addTuples (p : Payload) (tuples : List Tuple) : Payload := ⟨p.tuples ++ tuples⟩

def ofGroups (groups : List (List Tuple)) : Except Violation Payload := do
  let p := groups.foldl addTuples ⟨[]⟩
  p.validate
  return p

end Payload

end Outbox.Permission

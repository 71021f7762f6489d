import Outbox.Json.Reading
import Outbox.Permission.Tuple

namespace Outbox.Permission

open Json

namespace Object

def toTree (o : Object) : Tree :=
  .record [("type", .ofString o.type), ("id", .ofString o.id)]

def read (dialect : Dialect ν Fault) : ν → Except Fault Object :=
  dialect.record
    [.mandatory "type" dialect.text fun s o => { o with type := s },
     .mandatory "id" dialect.text fun s o => { o with id := s }]
    .blank

end Object

def relationTree (name : String) : Tree :=
  .record [("name", .ofString name)]

def readRelation (dialect : Dialect ν Fault) : ν → Except Fault String :=
  dialect.record [.mandatory "name" dialect.text fun s _ => s] ""

namespace Tuple

def toTree (t : Tuple) : Tree :=
  .record <|
    (t.resource.map fun o => ("resource", o.toTree)).toList
      ++ (t.subject.map fun o => ("subject", o.toTree)).toList
      ++ (t.relation.map fun name => ("relation", relationTree name)).toList

def toJson (t : Tuple) : String := t.toTree.render

def read (dialect : Dialect ν Fault) : ν → Except Fault Tuple :=
  dialect.record
    [.defaulted "resource" (dialect.optional (Object.read dialect)) fun o t =>
       { t with resource := o },
     .defaulted "subject" (dialect.optional (Object.read dialect)) fun o t =>
       { t with subject := o },
     .defaulted "relation" (dialect.optional (readRelation dialect)) fun r t =>
       { t with relation := r }]
    {}

def ofJson (text : String) : Except Fault Tuple :=
  Json.parse (read textDialect) text.toList

end Tuple

namespace Payload

def toTree (p : Payload) : Tree :=
  .record (if p.tuples.isEmpty then [] else [("tuples", .list (p.tuples.map Tuple.toTree))])

def toJson (p : Payload) : String := p.toTree.render

def read (dialect : Dialect ν Fault) : ν → Except Fault Payload :=
  dialect.record [.defaulted "tuples" (dialect.list (Tuple.read dialect)) fun ts _ => ⟨ts⟩] ⟨[]⟩

def ofJson (text : String) : Except Fault Payload :=
  Json.parse (read textDialect) text.toList

end Payload

end Outbox.Permission

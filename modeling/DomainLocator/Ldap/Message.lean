import DomainLocator.Ldap.Filter
import DomainLocator.Ldap.ResultCode
import DomainLocator.Text.Quoted

namespace DomainLocator.Ldap

inductive Scope where
  | baseObject
  | singleLevel
  | wholeSubtree
  deriving DecidableEq, Repr

inductive Deref where
  | never
  | inSearching
  | findingBaseObject
  | always
  deriving DecidableEq, Repr

namespace Scope

def code : Scope → Int32
  | .baseObject => 0
  | .singleLevel => 1
  | .wholeSubtree => 2

def ofCode (code : Int32) : Except WireError Scope :=
  if code = 0 then .ok .baseObject
  else if code = 1 then .ok .singleLevel
  else if code = 2 then .ok .wholeSubtree
  else .error (.invalidEnumerated .scope code)

def name : Scope → String
  | .baseObject => "BaseObject"
  | .singleLevel => "SingleLevel"
  | .wholeSubtree => "WholeSubtree"

@[simp]
theorem ofCode_code (s : Scope) : ofCode s.code = .ok s := by
  cases s <;> rfl

end Scope

namespace Deref

def code : Deref → Int32
  | .never => 0
  | .inSearching => 1
  | .findingBaseObject => 2
  | .always => 3

def ofCode (code : Int32) : Except WireError Deref :=
  if code = 0 then .ok .never
  else if code = 1 then .ok .inSearching
  else if code = 2 then .ok .findingBaseObject
  else if code = 3 then .ok .always
  else .error (.invalidEnumerated .derefAliases code)

def name : Deref → String
  | .never => "Never"
  | .inSearching => "InSearching"
  | .findingBaseObject => "FindingBaseObj"
  | .always => "Always"

@[simp]
theorem ofCode_code (d : Deref) : ofCode d.code = .ok d := by
  cases d <;> rfl

end Deref

structure SearchRequest where
  base : String := ""
  scope : Scope := .baseObject
  deref : Deref := .never
  sizeLimit : Int32 := 0
  timeLimit : Int32 := 0
  typesOnly : Bool := false
  filter : Filter
  attributes : List String := []
  deriving DecidableEq, Repr

structure Attribute where
  type : String
  values : List Octets
  deriving DecidableEq, Repr

structure SearchEntry where
  object : String
  attributes : List Attribute
  deriving DecidableEq, Repr

structure SearchDone where
  result : ResultCode
  matchedDn : String := ""
  diagnostic : String
  deriving DecidableEq, Repr

inductive Operation where
  | request (search : SearchRequest)
  | entry (entry : SearchEntry)
  | done (done : SearchDone)
  deriving DecidableEq, Repr

structure Message where
  id : Int32
  operation : Operation
  deriving DecidableEq, Repr

namespace SearchRequest

def read : Ber.Reading SearchRequest := do
  let base ← Ber.text.next
  let scope ← Scope.ofCode (← Ber.enumerated.next)
  let deref ← Deref.ofCode (← Ber.enumerated.next)
  let sizeLimit ← Ber.integer.next
  let timeLimit ← Ber.integer.next
  let typesOnly ← Ber.boolean.next
  let filter ← (Filter.read Filter.maxDepth).next
  let attributes ← (Ber.listOf .sequence Ber.text).next
  return { base, scope, deref, sizeLimit, timeLimit, typesOnly, filter, attributes }

def write (s : SearchRequest) : Octets :=
  Ber.writeText s.base ++ Ber.writeEnumerated s.scope.code ++ Ber.writeEnumerated s.deref.code ++
    Ber.writeInteger s.sizeLimit ++ Ber.writeInteger s.timeLimit ++ Ber.writeBoolean s.typesOnly ++
    s.filter.write ++ Ber.writeList .sequence Ber.writeText s.attributes

end SearchRequest

namespace Attribute

def read : Ber.Item Attribute :=
  (Ber.ofType .sequence).andThen (Ber.Reading.within do
    let type ← Ber.text.next
    let values ← (Ber.listOf .set Ber.octetString).next
    return { type, values })

def write (a : Attribute) : Octets :=
  Ber.element (Ber.tagOf .sequence) (Ber.writeText a.type ++ Ber.writeList .set Ber.writeOctets a.values)

end Attribute

namespace SearchEntry

def read : Ber.Reading SearchEntry := do
  let object ← Ber.text.next
  let attributes ← (Ber.listOf .sequence Attribute.read).next
  return { object, attributes }

def write (e : SearchEntry) : Octets :=
  Ber.writeText e.object ++ Ber.writeList .sequence Attribute.write e.attributes

end SearchEntry

namespace SearchDone

def read : Ber.Reading SearchDone := do
  let result ← Ber.enumerated.next
  let matchedDn ← Ber.text.next
  let diagnostic ← Ber.text.next
  return { result := .ofCode result, matchedDn, diagnostic }

def write (d : SearchDone) : Octets :=
  Ber.writeEnumerated d.result.code ++ Ber.writeText d.matchedDn ++ Ber.writeText d.diagnostic

end SearchDone

namespace Operation

def requestTag : UInt8 := Ber.application 3

def entryTag : UInt8 := Ber.application 4

def doneTag : UInt8 := Ber.application 5

def read : Ber.Reading Operation := do
  let tag ← Ber.nextTag
  if tag = requestTag then
    let e ← Ber.Item.next Ber.read
    return .request (← Ber.Reading.within SearchRequest.read e.contents)
  else if tag = entryTag then
    let e ← Ber.Item.next Ber.read
    return .entry (← Ber.Reading.within SearchEntry.read e.contents)
  else if tag = doneTag then
    let e ← Ber.Item.next Ber.read
    return .done (← Ber.Reading.within SearchDone.read e.contents)
  else throw (.unsupportedChoice (Ber.classOf tag) (Ber.numberOf tag))

def write : Operation → Octets
  | .request search => Ber.element requestTag search.write
  | .entry e => Ber.element entryTag e.write
  | .done d => Ber.element doneTag d.write

def name : Operation → String
  | .request _ => "SearchRequest"
  | .entry _ => "SearchResultEntry"
  | .done _ => "SearchResultDone"

end Operation

namespace Message

def read : Ber.Item Message :=
  (Ber.ofType .sequence).andThen (Ber.Reading.within do
    let id ← Ber.integer.next
    let operation ← Operation.read
    return { id, operation })

def decode (input : Octets) : Except WireError (Message × Octets) :=
  read.next input

def ofOctets (input : Octets) : Except WireError Message :=
  (decode input).map (·.1)

def toOctets (m : Message) : Octets :=
  Ber.element (Ber.tagOf .sequence) (Ber.writeInteger m.id ++ m.operation.write)

def toText (m : Message) : String :=
  s!"LdapMessage(id:{m.id.toInt}) - " ++ m.operation.name ++
    match m.operation with
    | .request s =>
      " base:'" ++ s.base ++ "' scope:" ++ s.scope.name ++ " filter:" ++ s.filter.toText ++
        " attributes:" ++ Text.Quoted.quoteList s.attributes
    | .entry e =>
      " object:'" ++ e.object ++ "' [" ++
        String.intercalate ", " (e.attributes.map fun a => a.type ++ s!"({a.values.length} values)") ++ "]"
    | .done d => " " ++ d.result.name ++ " '" ++ d.diagnostic ++ "'"

end Message

end DomainLocator.Ldap

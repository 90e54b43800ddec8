import DomainLocator.Ldap.Message
import DomainLocator.Netlogon.Response
import DomainLocator.Registry

/-! Answers to the search by which a client finds a domain controller. A version that is too short is an error
whatever the domain. -/

namespace DomainLocator

abbrev Directory := Registry Netlogon.Response

namespace Directory

open Ldap (Message SearchRequest ResultCode)
open Netlogon (Version)

def netlogonAttribute : String := "Netlogon"

def domainClause : String := "DnsDomain"

def versionClause : String := "NtVer"

def requestedDomain? (search : SearchRequest) : Option String :=
  (search.filter.value? domainClause).map Text.Utf8.decodeLossy

/-- The version flags of the request, none of them set if it has no clause for them. Only the first four
octets count. -/
def requestedVersion (search : SearchRequest) : Except ServiceError Version :=
  match search.filter.value? versionClause with
  | none => .ok ⟨0⟩
  | some bs =>
    if 4 ≤ bs.length then .ok ⟨UInt32.ofNat (Octets.ofLittleEndian (bs.take 4))⟩
    else .error (.invalidVersion bs.length)

def isServed (v : Version) : Bool :=
  v.contains Version.v5ex && !v.contains Version.v5exWithIp

def done (id : Int32) (result : ResultCode) (diagnostic : String) : Message :=
  ⟨id, .done { result, diagnostic }⟩

def entry (id : Int32) (value : Octets) : Message :=
  ⟨id, .entry { object := "", attributes := [⟨netlogonAttribute, [value]⟩] }⟩

def unknownDomain (domain : Option String) : String :=
  "cannot find registered info for domain '" ++ domain.getD "" ++ "'"

def unservedVersion : String :=
  "can only respond to requests for NETLOGON_NT_VERSION_5EX"

def answerSearch (d : Directory) (id : Int32) (search : SearchRequest) : Except ServiceError (List Message) := do
  let domain := requestedDomain? search
  let version ← requestedVersion search
  match domain.bind d.find? with
  | none => return [done id .other (unknownDomain domain)]
  | some response =>
    if isServed version then
      let value ← response.pack.mapError .wire
      return [entry id value, done id .success ""]
    else return [done id .other unservedVersion]

def respond (d : Directory) (request : Message) : Except ServiceError (List Message) :=
  match request.operation with
  | .request search => d.answerSearch request.id search
  | other => .error (.unexpectedOperation other.name)

def answerDatagram (d : Directory) (datagram : Octets) : Except ServiceError Octets := do
  let request ← (Message.ofOctets datagram).mapError .wire
  return (← d.respond request).flatMap Message.toOctets

end Directory

end DomainLocator

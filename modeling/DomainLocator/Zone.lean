import DomainLocator.Dns.Message
import DomainLocator.Registry

namespace DomainLocator

structure Zone where
  soa : Dns.Record
  hosts : Registry Dns.Record
  services : Registry Dns.Record

namespace Zone

open Dns (Name Record)

def soaTtl : Int32 := 900

def hostTtl : Int32 := 3600

def serviceTtl : Int32 := 600

def soaRecord (realm : String) : Record :=
  let apex := Name.ofDotted realm
  { name := apex, ttl := soaTtl
    data := .soa {
      primary := apex, mailbox := apex
      serial := 16, refresh := 900, retry := 300, expire := 604800, minimum := 900 } }

def ofRealm (realm : String) : Zone :=
  ⟨soaRecord realm, .empty, .empty⟩

def hostRecord (name : String) (addr : Address.Ipv4) : Record :=
  { name := .ofDotted name, ttl := hostTtl, data := .a addr }

def serviceRecord (name target : String) (port : UInt16) : Record :=
  { name := .ofDotted name, ttl := serviceTtl
    data := .srv { priority := 0, weight := 100, port, target := .ofDotted target } }

def addHost (z : Zone) (name : String) (addr : Address.Ipv4) : Zone × Except ServiceError Unit :=
  let (hosts, outcome) := z.hosts.insert name (hostRecord name addr)
  ({ z with hosts }, outcome)

def addService (z : Zone) (name target : String) (port : UInt16) : Zone × Except ServiceError Unit :=
  let (services, outcome) := z.services.insert name (serviceRecord name target port)
  ({ z with services }, outcome)

def host? (z : Zone) (name : Name) : Option Record :=
  z.hosts.find? name.dotted

def service? (z : Zone) (name : Name) : Option Record :=
  z.services.find? name.dotted

end Zone

end DomainLocator

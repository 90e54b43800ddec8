import DomainLocator.Address
import DomainLocator.Locator
import DomainLocator.Resolver

namespace DomainLocator

inductive ErrorPolicy where
  | abort
  | proceed
  deriving DecidableEq, Repr, Inhabited

structure Config where
  listen : Address.Ip := .v4 .localhost
  dnsPort : UInt16 := 53
  ldapPort : UInt16 := 389
  kdcPort : UInt16 := 88
  realm : String := "contoso.com"
  host : String := "dc01"
  site : String := "Default-First-Site-Name"
  policy : ErrorPolicy := .abort
  deriving DecidableEq, Repr

namespace Config

def dnsSocket (c : Config) : Address.Socket :=
  ⟨c.listen, c.dnsPort⟩

def ldapSocket (c : Config) : Address.Socket :=
  ⟨c.listen, c.ldapPort⟩

def hostName (c : Config) : String :=
  c.host ++ "." ++ c.realm

def kerberosName (c : Config) : String :=
  "_kerberos._tcp.dc._msdcs." ++ c.realm

def ldapName (c : Config) : String :=
  "_ldap._tcp.dc._msdcs." ++ c.realm

def zone (c : Config) : Except ServiceError Zone := do
  let z := Zone.ofRealm c.realm
  let z ← match c.listen with
    | .v4 addr => accepted (z.addHost c.hostName addr)
    | .v6 _ => pure z
  let z ← accepted (z.addService c.kerberosName c.hostName c.kdcPort)
  accepted (z.addService c.ldapName c.hostName c.ldapPort)

def capabilities : Netlogon.Capabilities :=
  open Netlogon.Capabilities in
  [gc, ldap, ds, kdc, timeServer, closest, writable, goodTimeServer, fullSecretDomain6, webService,
    ds8, ds9, ds10, keyList, ds13].foldl Netlogon.FlagWord.union pdc

def netlogon (c : Config) (domainGuid : Netlogon.Guid) : Netlogon.Response where
  opcode := .samLogonResponseEx
  flags := capabilities
  domainGuid := domainGuid
  dnsForest := c.realm
  dnsDomain := c.realm
  dnsHost := c.hostName
  dcSite := c.site
  clientSite := c.site
  version := Netlogon.Version.v1.union Netlogon.Version.v5ex
  lmNtToken := 0xffff
  lm20Token := 0xffff

def directory (c : Config) (domainGuid : Netlogon.Guid) : Except ServiceError Directory :=
  accepted (Registry.empty.insert c.realm (c.netlogon domainGuid))

end Config

end DomainLocator

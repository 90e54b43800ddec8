import DomainLocator.Config
import DomainLocator.Service.Supervisor

namespace DomainLocator.Config

open Service (Server Servers)

def dnsServer (c : Config) : Except ServiceError Server := do
  return { handler := (← c.zone).answerDatagram, policy := c.policy }

def ldapServer (c : Config) (domainGuid : Netlogon.Guid) : Except ServiceError Server := do
  return { handler := (← c.directory domainGuid).answerDatagram, policy := c.policy }

def servers (c : Config) (domainGuid : Netlogon.Guid) : Except ServiceError Servers := do
  return ⟨← c.dnsServer, ← c.ldapServer domainGuid⟩

end DomainLocator.Config

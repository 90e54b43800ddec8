import DomainLocator.Main
import DomainLocator.Proofs.Dns.MessageDecoding
import DomainLocator.Proofs.Dns.MessageEncoding
import DomainLocator.Proofs.Dns.MessageRoundTrip
import DomainLocator.Proofs.Dns.NameDecoding
import DomainLocator.Proofs.Dns.NameText
import DomainLocator.Proofs.Ldap.MessageRoundTrip
import DomainLocator.Proofs.Ldap.Reencoding
import DomainLocator.Proofs.Locator.ReadableReply
import DomainLocator.Proofs.Netlogon.ResponseRoundTrip
import DomainLocator.Proofs.Zone.Datagram
import DomainLocator.Proofs.Zone.History
import DomainLocator.Proofs.Zone.Registered
import DomainLocator.Proofs.Dns.NameCase
import DomainLocator.Proofs.Zone.OwnerNames
import DomainLocator.Proofs.Locator.Datagram
import DomainLocator.Proofs.Service.LifeCycle
import DomainLocator.Proofs.Service.Policies
import DomainLocator.Proofs.Service.Shutdown
import DomainLocator.Proofs.Zone.Publishing
import DomainLocator.Proofs.Locator.Discovery
import DomainLocator.Proofs.Dns.MessageFaults
import DomainLocator.Proofs.Dns.MessageFraming
import DomainLocator.Proofs.Dns.MessageExtent
import DomainLocator.Proofs.Dns.MessageStability
import DomainLocator.Proofs.Dns.RecordConfinement
import DomainLocator.Proofs.Ldap.FilterNesting
import DomainLocator.Proofs.Ldap.MessageExtent
import DomainLocator.Proofs.Locator.Decision
import DomainLocator.Proofs.Registry
import DomainLocator.Proofs.Zone.LetterCase

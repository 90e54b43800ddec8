import DomainLocator.Address
import DomainLocator.Octets
import DomainLocator.ServiceError

namespace DomainLocator.Service

inductive Passage where
  | delivered
  | lost
  deriving DecidableEq, Repr

/-- What becomes of the calls of servers and clients. A client hands over its own address and that of the server. -/
structure Network where
  bind : Address.Socket → Except IoFault Unit
  request : Address.Socket → Address.Socket → Octets → Except IoFault Passage
  reply : Octets → Except IoFault Unit

namespace Network

def tooLong : IoFault := { text := "Message too long (os error 90)" }

def maxDatagram : Nat := 65507

def fits (datagram : Octets) : Except IoFault Unit :=
  if datagram.length ≤ maxDatagram then .ok () else .error tooLong

end Network

end DomainLocator.Service

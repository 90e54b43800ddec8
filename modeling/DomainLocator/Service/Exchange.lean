import DomainLocator.Service.Network
import DomainLocator.Service.Server

namespace DomainLocator.Service

inductive Exchange where
  | notRunning
  | unsent (fault : IoFault)
  | reply (octets : Octets)
  | lost
  | noReply
  | stopped
  deriving DecidableEq, Repr

namespace Server

def startAt (net : Network) (address : Address.Socket) (s : Server) : Server × Outcome :=
  s.start (net.bind address)

def exchange (net : Network) (peer address : Address.Socket) (octets : Octets) (s : Server) : Server × Exchange :=
  match s.state with
  | .stopped | .stopping => (s, .notRunning)
  | .running =>
    match net.request peer address octets with
    | .error fault => (s, .unsent fault)
    | .ok .lost => (s, .lost)
    | .ok .delivered =>
      match s.step (.datagram peer octets net.reply) with
      | (s, some reply) => (s, .reply reply.octets)
      | (s, none) => (s, if s.state = .running then .noReply else .stopped)

end Server

end DomainLocator.Service

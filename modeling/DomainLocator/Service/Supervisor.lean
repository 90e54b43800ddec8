import DomainLocator.Service.Server

/-! A DNS server and an LDAP server that run together until a signal comes or one of them ends. Where several of these
have come about at once, any one of them is taken up. -/

namespace DomainLocator.Service

inductive Signal where
  | pending
  | received
  | failed (fault : IoFault)
  deriving DecidableEq, Repr

inductive Role where
  | dns
  | ldap
  deriving DecidableEq, Repr

inductive Trigger where
  | signal
  | ended (server : Role)
  deriving DecidableEq, Repr

inductive RunError where
  | signal (fault : IoFault)
  | ended (server : Role) (cause : ServiceError)
  | stopping (cause : ServiceError)
  deriving DecidableEq, Repr

def Role.message : Role → String
  | .dns => "DNS server stopped"
  | .ldap => "CLDAP server stopped"

def RunError.message (e : RunError) : String :=
  let chain :=
    match e with
    | .signal fault => [fault.text]
    | .ended server cause => server.message :: cause.chain
    | .stopping cause => cause.chain
  String.intercalate ": " chain

structure Servers where
  dns : Server
  ldap : Server

/-- What comes to the two servers after the run has taken up what ends it. -/
structure Arrivals where
  dns : List Event := []
  ldap : List Event := []

namespace Servers

def receive (s : Servers) (late : Arrivals) : Servers :=
  ⟨(s.dns.run late.dns).1, (s.ldap.run late.ldap).1⟩

/-- Both servers are stopped, the second one only if the first tells of no error. After that, `outcome`
is the outcome. -/
def shutDown (s : Servers) (outcome : Except RunError Unit) : Servers × Except RunError Unit :=
  match s.dns.stop with
  | (dns, .error e) => ({ s with dns }, .error (.stopping e))
  | (dns, .ok ()) =>
    match s.ldap.stop with
    | (ldap, .error e) => (⟨dns, ldap⟩, .error (.stopping e))
    | (ldap, .ok ()) => (⟨dns, ldap⟩, outcome)

def finish? (s : Servers) (signal : Signal) (late : Arrivals) : Trigger → Option (Servers × Except RunError Unit)
  | .signal =>
    match signal with
    | .pending => none
    | .received => some ((s.receive late).shutDown (.ok ()))
    | .failed fault => some (s.receive late, .error (.signal fault))
  | .ended .dns =>
    match s.dns.wait with
    | (_, none) => none
    | (dns, some outcome) => some (({ s with dns }.receive late).shutDown (outcome.mapError (.ended .dns)))
  | .ended .ldap =>
    match s.ldap.wait with
    | (_, none) => none
    | (ldap, some outcome) => some (({ s with ldap }.receive late).shutDown (outcome.mapError (.ended .ldap)))

/-- Runs until something ends the run, and nothing if that does not happen. The signal is looked at
first, then the DNS server, and nothing more comes to the servers. -/
def serveUntil? (s : Servers) (signal : Signal) : Option (Servers × Except RunError Unit) :=
  [Trigger.signal, .ended .dns, .ended .ldap].findSome? (s.finish? signal {})

end Servers

end DomainLocator.Service

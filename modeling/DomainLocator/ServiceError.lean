import DomainLocator.WireError

namespace DomainLocator

inductive IoFault.Kind where
  | connectionReset
  | connectionRefused
  | other
  deriving DecidableEq, Repr

structure IoFault where
  kind : IoFault.Kind := .other
  text : String
  deriving DecidableEq, Repr

inductive ServiceError where
  | io (fault : IoFault)
  | wire (cause : WireError)
  | duplicateKey (key : String)
  | unexpectedOperation (name : String)
  | invalidVersion (size : Nat)
  | alreadyRunning
  deriving DecidableEq, Repr

def IoFault.isPeerReset (f : IoFault) : Bool :=
  f.kind != .other

namespace ServiceError

def message : ServiceError → String
  | .io fault => "socket error: " ++ fault.text
  | .wire cause => "bad message: " ++ cause.message
  | .duplicateKey key => s!"an entry for '{key}' is already registered"
  | .unexpectedOperation name => "cannot handle LDAP " ++ name
  | .invalidVersion size => s!"NtVer value must be at least 4 bytes, got {size}"
  | .alreadyRunning => "server is already running"

def chain (e : ServiceError) : List String :=
  match e with
  | .io fault => [e.message, fault.text]
  | .wire cause => [e.message, cause.message]
  | e => [e.message]

end ServiceError

def accepted {α : Type} (change : α × Except ServiceError Unit) : Except ServiceError α :=
  change.2.map fun () => change.1

theorem accepted_eq_ok_iff {α : Type} {change : α × Except ServiceError Unit} {a : α} :
    accepted change = .ok a ↔ change = (a, .ok ()) := by
  obtain ⟨b, outcome⟩ := change
  cases outcome <;> simp [accepted, Except.map]

end DomainLocator

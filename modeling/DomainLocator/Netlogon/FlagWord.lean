namespace DomainLocator.Netlogon

structure FlagWord (named : List (String × UInt32)) where
  bits : UInt32
  deriving DecidableEq, Repr, Inhabited

namespace FlagWord

variable {named : List (String × UInt32)}

def contains (f other : FlagWord named) : Bool :=
  f.bits &&& other.bits == other.bits

def intersects (f other : FlagWord named) : Bool :=
  f.bits &&& other.bits != 0

def union (f other : FlagWord named) : FlagWord named :=
  ⟨f.bits ||| other.bits⟩

def all (named : List (String × UInt32)) : FlagWord named :=
  named.foldl (fun f row => f.union ⟨row.2⟩) ⟨0⟩

def truncate (f : FlagWord named) : FlagWord named :=
  ⟨f.bits &&& (all named).bits⟩

def isNamed (f : FlagWord named) : Bool :=
  f.truncate == f

def names (f : FlagWord named) : List String :=
  (named.filter fun row => f.contains ⟨row.2⟩).map (·.1)

end FlagWord

end DomainLocator.Netlogon

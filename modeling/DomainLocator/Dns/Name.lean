import DomainLocator.Text.AsciiCase
import DomainLocator.Text.LowerCase
import DomainLocator.Text.Separated

namespace DomainLocator.Dns

structure Name where
  labels : List String
  deriving DecidableEq, Repr, Inhabited

namespace Name

def ofDotted (s : String) : Name :=
  ⟨Text.Separated.split '.' s⟩

def single (label : String) : Name :=
  ⟨[label]⟩

def dotted (n : Name) : String :=
  Text.Separated.join '.' n.labels

def key (n : Name) : String :=
  Text.lowerCase n.dotted

def eqIgnoreCase (a b : Name) : Bool :=
  a.labels.length == b.labels.length && (a.labels.zip b.labels).all fun (x, y) => Text.eqIgnoreCase x y

end Name

end DomainLocator.Dns

import DomainLocator.Dns.Name.Compression
import DomainLocator.Dns.Name.Walk
import DomainLocator.Dns.RecordClass
import DomainLocator.Dns.RecordType

namespace DomainLocator.Dns

structure Question where
  name : Name
  type : RecordType := .a
  recordClass : RecordClass := .internet
  deriving DecidableEq, Repr

namespace Question

def read (buf : Buffer) (pos : Nat) : Except WireError (Question × Nat) := do
  let (name, pos) ← Name.decode buf pos
  let (type, pos) ← buf.word16 pos
  let (recordClass, pos) ← buf.word16 pos
  return (⟨name, .ofCode type, .ofCode recordClass⟩, pos)

def write (q : Question) (w : Writer) : Except Interrupted Writer := do
  let w ← q.name.write true w
  return (w.word16 q.type.code).word16 q.recordClass.code

def writeCounted (q : Question) (w : Writer) : Except Interrupted (Nat × Writer) := do
  let (count, w) ← w.counted (q.name.write true)
  return (count + 4, (w.word16 q.type.code).word16 q.recordClass.code)

def toText (q : Question) : String :=
  q.name.dotted ++ "(" ++ q.type.name ++ ")"

end Question

end DomainLocator.Dns

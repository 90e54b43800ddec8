import DomainLocator.Octets
import DomainLocator.Text.Number
import DomainLocator.Text.Separated

namespace DomainLocator.Address

structure Ipv4 where
  bits : UInt32
  deriving DecidableEq, Repr, Inhabited

namespace Ipv4

def localhost : Ipv4 := ⟨0x7f000001⟩

def octets (a : Ipv4) : Octets :=
  Octets.bigEndian 4 a.bits.toNat

def ofOctets (bs : Octets) : Ipv4 :=
  ⟨UInt32.ofNat (Octets.ofBigEndian bs)⟩

def toText (a : Ipv4) : String :=
  String.intercalate "." (a.octets.map fun b => toString b.toNat)

def part? (cs : List Char) : Option UInt8 := do
  let n ← Text.number? 10 cs
  if cs.length ≤ 3 ∧ (cs.head? = some '0' → cs.length = 1) ∧ n ≤ 255 then some (UInt8.ofNat n) else none

def ofChars? (cs : List Char) : Option Ipv4 := do
  let parts ← (Text.Separated.pieces '.' cs).mapM part?
  if parts.length = 4 then some (ofOctets parts) else none

end Ipv4

end DomainLocator.Address

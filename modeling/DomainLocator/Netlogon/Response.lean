import DomainLocator.Dns.Name.Compression
import DomainLocator.Dns.Name.Walk
import DomainLocator.Netlogon.Flags
import DomainLocator.Netlogon.Guid
import DomainLocator.Netlogon.Opcode

/-! Two parts of a response have no mark of their own: the address of the server and the next closest site. Each is
there for a reader if its request asked for it, the site only if more than the trailer follows. -/

namespace DomainLocator.Netlogon

structure Response where
  opcode : Opcode := .samLogonResponseEx
  flags : Capabilities := ⟨0⟩
  domainGuid : Guid := ⟨0, 0, 0, 0⟩
  dnsForest : String := ""
  dnsDomain : String := ""
  dnsHost : String := ""
  netbiosDomain : String := ""
  netbiosComputer : String := ""
  user : String := ""
  dcSite : String := ""
  clientSite : String := ""
  nextClosestSite : Option String := none
  version : Version := ⟨0⟩
  lmNtToken : UInt16 := 0
  lm20Token : UInt16 := 0
  deriving DecidableEq, Repr

namespace Response

open Dns (Name Writer Interrupted)

def addressSize : Nat := 17

def trailerSize : Nat := 8

def names (r : Response) : List Name :=
  [r.dnsForest, r.dnsDomain, r.dnsHost].map Name.ofDotted ++
    [r.netbiosDomain, r.netbiosComputer, r.user, r.dcSite, r.clientSite].map Name.single ++
    r.nextClosestSite.toList.map Name.single

def header (r : Response) : Octets :=
  Octets.littleEndian 2 r.opcode.code.toNat ++ Octets.littleEndian 2 0 ++
    Octets.littleEndian 4 r.flags.bits.toNat ++ r.domainGuid.octets

def trailer (r : Response) : Octets :=
  Octets.littleEndian 4 r.version.bits.toNat ++ Octets.littleEndian 2 r.lmNtToken.toNat ++
    Octets.littleEndian 2 r.lm20Token.toNat

def write (r : Response) (w : Writer) : Except Interrupted Writer := do
  let w ← (w.append r.header).all (Name.write true) r.names
  return w.append r.trailer

def pack (r : Response) : Except WireError Octets :=
  match r.write {} with
  | .ok w => .ok w.octets.toList
  | .error stop => .error stop.cause

def readName (buf : Buffer) (pos : Nat) : Except WireError (String × Nat) := do
  let (name, pos) ← Name.decode buf pos
  return (name.dotted, pos)

/-- The next closest site, if `request` asks for one and there is more than the trailer at `pos`. -/
def readNextSite (request : Version) (buf : Buffer) (pos : Nat) : Except WireError (Option String × Nat) :=
  if request.contains Version.withClosestSite ∧ trailerSize < buf.size - pos then do
    let (site, pos) ← readName buf pos
    return (some site, pos)
  else .ok (none, pos)

def read (request : Version) (buf : Buffer) : Except WireError Response := do
  let (opcode, pos) ← buf.littleWord16 0
  let (_, pos) ← buf.littleWord16 pos
  let (flags, pos) ← buf.littleWord32 pos
  let (guid, pos) ← buf.field 16 pos
  let (dnsForest, pos) ← readName buf pos
  let (dnsDomain, pos) ← readName buf pos
  let (dnsHost, pos) ← readName buf pos
  let (netbiosDomain, pos) ← readName buf pos
  let (netbiosComputer, pos) ← readName buf pos
  let (user, pos) ← readName buf pos
  let (dcSite, pos) ← readName buf pos
  let (clientSite, pos) ← readName buf pos
  let pos := if request.contains Version.v5exWithIp then pos + addressSize else pos
  let (nextClosestSite, pos) ← readNextSite request buf pos
  let (version, pos) ← buf.littleWord32 pos
  let (lmNtToken, pos) ← buf.littleWord16 pos
  let (lm20Token, _) ← buf.littleWord16 pos
  return {
    opcode := .ofCode opcode, flags := ⟨flags⟩, domainGuid := .ofOctets guid
    dnsForest, dnsDomain, dnsHost, netbiosDomain, netbiosComputer, user, dcSite, clientSite
    nextClosestSite, version := ⟨version⟩, lmNtToken, lm20Token }

def unpack (data : Octets) (request : Version) : Except WireError Response :=
  read request (Buffer.ofOctets data)

def toText (r : Response) : String :=
  r.opcode.name ++ " domain:" ++ r.dnsDomain ++ " host:" ++ r.dnsHost ++ " guid:" ++ r.domainGuid.toText ++
    " site:" ++ r.dcSite ++ " flags:0x" ++ Text.Hex.padded 8 r.flags.bits.toNat ++
    " nt_version:0x" ++ Text.Hex.digits r.version.bits.toNat

end Response

end DomainLocator.Netlogon

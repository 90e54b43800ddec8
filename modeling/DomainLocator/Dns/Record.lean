import DomainLocator.Address.Ipv6
import DomainLocator.Dns.Name.Compression
import DomainLocator.Dns.Name.Walk
import DomainLocator.Dns.RecordClass
import DomainLocator.Dns.RecordType

namespace DomainLocator.Dns

structure Soa where
  primary : Name
  mailbox : Name
  serial : UInt32
  refresh : UInt32
  retry : UInt32
  expire : UInt32
  minimum : UInt32
  deriving DecidableEq, Repr

structure Srv where
  priority : UInt16
  weight : UInt16
  port : UInt16
  target : Name
  deriving DecidableEq, Repr

inductive RecordData where
  | a (addr : Address.Ipv4)
  | aaaa (addr : Address.Ipv6)
  | soa (soa : Soa)
  | srv (srv : Srv)
  deriving DecidableEq, Repr

structure Record where
  name : Name
  data : RecordData
  recordClass : RecordClass := .internet
  ttl : Int32 := 0
  deriving DecidableEq, Repr

namespace Soa

def read (buf : Buffer) (pos : Nat) : Except WireError Soa := do
  let (primary, pos) ← Name.decode buf pos
  let (mailbox, pos) ← Name.decode buf pos
  let (serial, pos) ← buf.word32 pos
  let (refresh, pos) ← buf.word32 pos
  let (retry, pos) ← buf.word32 pos
  let (expire, pos) ← buf.word32 pos
  let (minimum, _) ← buf.word32 pos
  return ⟨primary, mailbox, serial, refresh, retry, expire, minimum⟩

def write (s : Soa) (w : Writer) : Except Interrupted Writer := do
  let w ← s.primary.write true w
  let w ← s.mailbox.write true w
  return ((((w.word32 s.serial).word32 s.refresh).word32 s.retry).word32 s.expire).word32 s.minimum

end Soa

namespace Srv

def read (buf : Buffer) (pos : Nat) : Except WireError Srv := do
  let (priority, pos) ← buf.word16 pos
  let (weight, pos) ← buf.word16 pos
  let (port, pos) ← buf.word16 pos
  let (target, _) ← Name.decode buf pos
  return ⟨priority, weight, port, target⟩

/-- The target is written out in full: there are clients that refuse a pointer there. -/
def write (s : Srv) (w : Writer) : Except Interrupted Writer :=
  s.target.write false (((w.word16 s.priority).word16 s.weight).word16 s.port)

end Srv

namespace RecordData

def type : RecordData → RecordType
  | .a _ => .a
  | .aaaa _ => .aaaa
  | .soa _ => .soa
  | .srv _ => .srv

def read (type : RecordType) (buf : Buffer) (pos : Nat) : Except WireError RecordData :=
  match type with
  | .a => do
    let (bs, _) ← buf.field 4 pos
    return .a (.ofOctets bs)
  | .aaaa => do
    let (bs, _) ← buf.field 16 pos
    return .aaaa (.ofOctets bs)
  | .soa => return .soa (← Soa.read buf pos)
  | .srv => return .srv (← Srv.read buf pos)
  | type => .error (.unsupportedRecordType type.code)

def write (d : RecordData) (w : Writer) : Except Interrupted Writer :=
  match d with
  | .a addr => .ok (w.append addr.octets)
  | .aaaa addr => .ok (w.append addr.octets)
  | .soa s => s.write w
  | .srv s => s.write w

def toText : RecordData → String
  | .a addr => "A(" ++ addr.toText ++ ")"
  | .aaaa addr => "AAAA(" ++ addr.toText ++ ")"
  | .soa s =>
    let numbers := [s.serial, s.refresh, s.retry, s.expire, s.minimum].map fun n => toString n.toNat
    "SOA(" ++ String.intercalate ", " (s.primary.dotted :: s.mailbox.dotted :: numbers) ++ ")"
  | .srv s =>
    s!"SRV({s.priority.toNat} {s.weight.toNat} {s.port.toNat} " ++ s.target.dotted ++ ")"

end RecordData

namespace Record

def type (r : Record) : RecordType :=
  r.data.type

/-- Reads the record at `pos`. The next one starts where its data ends by the length given, however much
of the data was needed. -/
def read (buf : Buffer) (pos : Nat) : Except WireError (Record × Nat) := do
  let (name, pos) ← Name.decode buf pos
  let (type, pos) ← buf.word16 pos
  let (recordClass, pos) ← buf.word16 pos
  let (ttl, pos) ← buf.word32 pos
  let (size, pos) ← buf.word16 pos
  let stop := pos + size.toNat
  if buf.size < stop then
    .error (.truncated pos)
  let data ← RecordData.read (.ofCode type) (buf.cut stop) pos
  return (⟨name, data, .ofCode recordClass, ttl.toInt32⟩, stop)

/-- Writes the data after its length, for which two octets have been left at `lengthAt`. A function of its
own, and not inlined, so that the offset is known before the octets of the writer are taken over. -/
@[noinline]
def writeData (d : RecordData) (lengthAt : Nat) (w : Writer) : Except Interrupted Writer := do
  let w ← d.write w
  let length := w.octets.size - (lengthAt + 2)
  if length ≤ 0xffff then .ok (w.patch16 lengthAt length) else .error ⟨.sectionOverflow length, w⟩

def write (r : Record) (w : Writer) : Except Interrupted Writer := do
  let w ← r.name.write true w
  let w := ((w.word16 r.type.code).word16 r.recordClass.code).word32 r.ttl.toUInt32
  writeData r.data w.octets.size (w.append [0, 0])

def toText (r : Record) : String :=
  r.name.dotted ++ " => " ++ r.data.toText

end Record

end DomainLocator.Dns

import DomainLocator.Ber.Element
import DomainLocator.Text.Utf8

namespace DomainLocator.Ber

def ofType (type : BerType) : Item Octets :=
  Item.andThen read fun e => if e.tag = tagOf type then .ok e.contents else .error (.invalidBer (.expected type))

def integerSize (value : Int) : Nat :=
  if -0x80 ≤ value ∧ value < 0x80 then 1
  else if -0x8000 ≤ value ∧ value < 0x8000 then 2
  else if -0x800000 ≤ value ∧ value < 0x800000 then 3
  else 4

def integerOctets (value : Int32) : Octets :=
  let size := integerSize value.toInt
  Octets.bigEndian size (value.toInt % Octets.capacity size).toNat

def readInteger (contents : Octets) : Except WireError Int32 :=
  if contents.isEmpty then .error (.invalidBer .emptyInteger)
  else if 4 < contents.length then .error (.invalidBer .wideInteger)
  else
    let n := Octets.ofBigEndian contents
    let capacity := Octets.capacity contents.length
    if 2 * n < capacity then .ok (Int32.ofInt n) else .ok (Int32.ofInt (n - capacity))

def integer : Item Int32 :=
  (ofType .integer).andThen readInteger

def enumerated : Item Int32 :=
  (ofType .enumerated).andThen readInteger

def boolean : Item Bool :=
  (ofType .boolean).andThen fun contents =>
    match contents with
    | [b] => .ok (b != 0)
    | _ => .error (.invalidBer .booleanSize)

def octetString : Item Octets :=
  ofType .octetString

def text : Item String :=
  octetString.andThen fun bs => .ok (Text.Utf8.decodeLossy bs)

def listOf {α : Type} (type : BerType) (item : Item α) : Item (List α) :=
  (ofType type).andThen (untilEnd item)

def writeInteger (value : Int32) : Octets :=
  element (tagOf .integer) (integerOctets value)

def writeEnumerated (value : Int32) : Octets :=
  element (tagOf .enumerated) (integerOctets value)

def writeBoolean (value : Bool) : Octets :=
  element (tagOf .boolean) [if value then 0xff else 0]

def writeOctets (bs : Octets) : Octets :=
  element (tagOf .octetString) bs

def writeText (s : String) : Octets :=
  writeOctets (Text.Utf8.encode s)

def writeList {α : Type} (type : BerType) (write : α → Octets) (values : List α) : Octets :=
  element (tagOf type) (values.flatMap write)

end DomainLocator.Ber

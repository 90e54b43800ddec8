import DomainLocator.Text.Hex

namespace DomainLocator.Dns

inductive Opcode where
  | query
  | inverseQuery
  | status
  | other (code : UInt8)
  deriving DecidableEq, Repr, Inhabited

namespace Opcode

def ofCode (code : UInt8) : Opcode :=
  if code = 0 then .query
  else if code = 1 then .inverseQuery
  else if code = 2 then .status
  else .other code

def name : Opcode → String
  | .query => "Query"
  | .inverseQuery => "IQuery"
  | .status => "Status"
  | .other code => s!"Unknown({code.toNat})"

end Opcode

inductive Rcode where
  | noError
  | formatError
  | serverFailure
  | nameError
  | notImplemented
  | refused
  | other (code : UInt8)
  deriving DecidableEq, Repr, Inhabited

namespace Rcode

def code : Rcode → UInt8
  | .noError => 0
  | .formatError => 1
  | .serverFailure => 2
  | .nameError => 3
  | .notImplemented => 4
  | .refused => 5
  | .other code => code

def ofCode (code : UInt8) : Rcode :=
  if code = 0 then .noError
  else if code = 1 then .formatError
  else if code = 2 then .serverFailure
  else if code = 3 then .nameError
  else if code = 4 then .notImplemented
  else if code = 5 then .refused
  else .other code

def name : Rcode → String
  | .noError => "NoError"
  | .formatError => "FormatError"
  | .serverFailure => "ServerFailure"
  | .nameError => "NameError"
  | .notImplemented => "NotImplemented"
  | .refused => "Refused"
  | .other code => s!"Unknown({code.toNat})"

@[simp]
theorem code_ofCode (code : UInt8) : (ofCode code).code = code := by
  unfold ofCode
  repeat' split
  all_goals simp_all [Rcode.code]

end Rcode

structure Flags where
  bits : UInt16
  deriving DecidableEq, Repr, Inhabited

namespace Flags

def response : Flags := ⟨0x8580⟩

def bit (f : Flags) (i : Nat) : Bool :=
  f.bits.toNat.testBit i

def isResponse (f : Flags) : Bool := f.bit 15

def isAuthoritative (f : Flags) : Bool := f.bit 10

def isTruncated (f : Flags) : Bool := f.bit 9

def recursionDesired (f : Flags) : Bool := f.bit 8

def recursionAvailable (f : Flags) : Bool := f.bit 7

def opcode (f : Flags) : Opcode :=
  Opcode.ofCode (UInt8.ofNat (f.bits.toNat / 2048 % 16))

def rcode (f : Flags) : Rcode :=
  Rcode.ofCode (UInt8.ofNat (f.bits.toNat % 16))

/-- Sets the bits of the response code's low four. Bits that are set stay set. -/
def withRcode (f : Flags) (r : Rcode) : Flags :=
  ⟨f.bits ||| (r.code.toUInt16 &&& 0xf)⟩

def toText (f : Flags) : String :=
  "0x" ++ Text.Hex.padded 4 f.bits.toNat

end Flags

end DomainLocator.Dns

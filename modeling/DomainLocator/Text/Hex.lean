import DomainLocator.Octets
import DomainLocator.Text.Number

namespace DomainLocator.Text.Hex

def digits (n : Nat) : String :=
  String.ofList (Nat.toDigits 16 n)

def padded (width n : Nat) : String :=
  String.ofList ((Nat.toDigits 16 n).leftpad width '0')

def ofOctets (bs : Octets) : String :=
  String.ofList (bs.flatMap fun b => [Nat.digitChar (b.toNat / 16), Nat.digitChar (b.toNat % 16)])

def readOnto (done : Octets) : List Char → Option Octets
  | [] => some done.reverse
  | [_] => none
  | high :: low :: rest =>
    match digit? 16 high, digit? 16 low with
    | some h, some l => readOnto (UInt8.ofNat (h * 16 + l) :: done) rest
    | _, _ => none

def toOctets? (s : String) : Option Octets :=
  readOnto [] s.toList

end DomainLocator.Text.Hex

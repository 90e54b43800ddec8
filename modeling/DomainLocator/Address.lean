import DomainLocator.Address.Ipv6

namespace DomainLocator.Address

inductive Ip where
  | v4 (addr : Ipv4)
  | v6 (addr : Ipv6)
  deriving DecidableEq, Repr, Inhabited

namespace Ip

def toText : Ip → String
  | .v4 addr => addr.toText
  | .v6 addr => addr.toText

def ofText? (s : String) : Option Ip :=
  ((Ipv4.ofChars? s.toList).map .v4).or ((Ipv6.ofChars? s.toList).map .v6)

end Ip

structure Socket where
  ip : Ip
  port : UInt16
  deriving DecidableEq, Repr, Inhabited

namespace Socket

def toText (s : Socket) : String :=
  match s.ip with
  | .v4 addr => addr.toText ++ ":" ++ toString s.port.toNat
  | .v6 addr => "[" ++ addr.toText ++ "]:" ++ toString s.port.toNat

def ofText? (s : String) : Option Socket := do
  let back := s.toList.reverse
  let port ← Text.number? 10 (back.takeWhile (· ≠ ':')).reverse
  let host := (back.dropWhile (· ≠ ':')).drop 1 |>.reverse
  let ip ← match host with
    | '[' :: inner => if host.getLast? = some ']' then (Ipv6.ofChars? inner.dropLast).map .v6 else none
    | _ => (Ipv4.ofChars? host).map Ip.v4
  if port ≤ 0xffff then some ⟨ip, UInt16.ofNat port⟩ else none

end Socket

end DomainLocator.Address

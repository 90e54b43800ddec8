namespace DomainLocator.Dns

inductive RecordType where
  | a | ns | cname | soa | ptr | hinfo | mx | txt | rp | afsdb | sig | key | kx | aaaa | loc | srv
  | naptr | cert | dname | apl | ds | sshfp | ipseckey | rrsig | nsec | dnskey | dhcid | nsec3
  | nsec3param | tlsa | smimea | hip | cds | cdnskey | openpgpkey | csync | zonemd | svcb | https
  | eui48 | eui64 | tkey | tsig | uri | wallet | ta | dlv
  | other (code : UInt16)
  deriving DecidableEq, Repr

namespace RecordType

def code : RecordType → UInt16
  | .a => 1
  | .ns => 2
  | .cname => 5
  | .soa => 6
  | .ptr => 12
  | .hinfo => 13
  | .mx => 15
  | .txt => 16
  | .rp => 17
  | .afsdb => 18
  | .sig => 24
  | .key => 25
  | .kx => 26
  | .aaaa => 28
  | .loc => 29
  | .srv => 33
  | .naptr => 35
  | .cert => 37
  | .dname => 39
  | .apl => 42
  | .ds => 43
  | .sshfp => 44
  | .ipseckey => 45
  | .rrsig => 46
  | .nsec => 47
  | .dnskey => 48
  | .dhcid => 49
  | .nsec3 => 50
  | .nsec3param => 51
  | .tlsa => 52
  | .smimea => 53
  | .hip => 55
  | .cds => 59
  | .cdnskey => 60
  | .openpgpkey => 61
  | .csync => 62
  | .zonemd => 63
  | .svcb => 64
  | .https => 65
  | .eui48 => 108
  | .eui64 => 109
  | .tkey => 249
  | .tsig => 250
  | .uri => 256
  | .wallet => 262
  | .ta => 32768
  | .dlv => 32769
  | .other code => code

def registered : List (RecordType × String) := [
  (.a, "A"), (.ns, "NS"), (.cname, "CNAME"), (.soa, "SOA"), (.ptr, "PTR"), (.hinfo, "HINFO"),
  (.mx, "MX"), (.txt, "TXT"), (.rp, "RP"), (.afsdb, "AFSDB"), (.sig, "SIG"), (.key, "KEY"),
  (.kx, "KX"), (.aaaa, "AAAA"), (.loc, "LOC"), (.srv, "SRV"), (.naptr, "NAPTR"), (.cert, "CERT"),
  (.dname, "DNAME"), (.apl, "APL"), (.ds, "DS"), (.sshfp, "SSHFP"), (.ipseckey, "IPSECKEY"),
  (.rrsig, "RRSIG"), (.nsec, "NSEC"), (.dnskey, "DNSKEY"), (.dhcid, "DHCID"), (.nsec3, "NSEC3"),
  (.nsec3param, "NSEC3PARAM"), (.tlsa, "TLSA"), (.smimea, "SMIMEA"), (.hip, "HIP"), (.cds, "CDS"),
  (.cdnskey, "CDNSKEY"), (.openpgpkey, "OPENPGPKEY"), (.csync, "CSYNC"), (.zonemd, "ZONEMD"),
  (.svcb, "SVCB"), (.https, "HTTPS"), (.eui48, "EUI48"), (.eui64, "EUI64"), (.tkey, "TKEY"),
  (.tsig, "TSIG"), (.uri, "URI"), (.wallet, "WALLET"), (.ta, "TA"), (.dlv, "DLV")]

def ofCode (code : UInt16) : RecordType :=
  match registered.find? fun row => row.1.code == code with
  | some row => row.1
  | none => .other code

def name (t : RecordType) : String :=
  match registered.find? fun row => row.1 == t with
  | some row => row.2
  | none => "Unknown(" ++ toString t.code.toNat ++ ")"

@[simp]
theorem code_ofCode (code : UInt16) : (ofCode code).code = code := by
  unfold ofCode
  split
  · rename_i row h
    simpa using List.find?_some h
  · rfl

theorem ofCode_code {t : RecordType} (h : ∀ code, t ≠ .other code) : ofCode t.code = t := by
  cases t with
  | other code => exact absurd rfl (h code)
  | _ => rfl

end RecordType

end DomainLocator.Dns

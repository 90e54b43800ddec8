import DomainLocator.Netlogon.FlagWord

namespace DomainLocator.Netlogon

def versionFlags : List (String × UInt32) := [
  ("V1", 0x1), ("V5", 0x2), ("V5EX", 0x4), ("V5EX_WITH_IP", 0x8), ("WITH_CLOSEST_SITE", 0x10),
  ("AVOID_NT4EMUL", 0x1000000), ("PDC", 0x10000000), ("IP", 0x20000000), ("LOCAL", 0x40000000),
  ("GC", 0x80000000)]

abbrev Version := FlagWord versionFlags

namespace Version

def v1 : Version := ⟨0x1⟩

def v5ex : Version := ⟨0x4⟩

def v5exWithIp : Version := ⟨0x8⟩

def withClosestSite : Version := ⟨0x10⟩

end Version

def capabilityFlags : List (String × UInt32) := [
  ("PDC", 0x1), ("GC", 0x4), ("LDAP", 0x8), ("DS", 0x10), ("KDC", 0x20), ("TIMESERV", 0x40),
  ("CLOSEST", 0x80), ("WRITABLE", 0x100), ("GOOD_TIMESERV", 0x200), ("NDNC", 0x400),
  ("SELECT_SECRET_DOMAIN_6", 0x800), ("FULL_SECRET_DOMAIN_6", 0x1000), ("WS", 0x2000),
  ("DS_8", 0x4000), ("DS_9", 0x8000), ("DS_10", 0x10000), ("KEY_LIST", 0x20000), ("DS_13", 0x40000),
  ("DNS_CONTROLLER", 0x20000000), ("DNS_DOMAIN", 0x40000000), ("DNS_FOREST", 0x80000000)]

abbrev Capabilities := FlagWord capabilityFlags

namespace Capabilities

def pdc : Capabilities := ⟨0x1⟩

def gc : Capabilities := ⟨0x4⟩

def ldap : Capabilities := ⟨0x8⟩

def ds : Capabilities := ⟨0x10⟩

def kdc : Capabilities := ⟨0x20⟩

def timeServer : Capabilities := ⟨0x40⟩

def closest : Capabilities := ⟨0x80⟩

def writable : Capabilities := ⟨0x100⟩

def goodTimeServer : Capabilities := ⟨0x200⟩

def fullSecretDomain6 : Capabilities := ⟨0x1000⟩

def webService : Capabilities := ⟨0x2000⟩

def ds8 : Capabilities := ⟨0x4000⟩

def ds9 : Capabilities := ⟨0x8000⟩

def ds10 : Capabilities := ⟨0x10000⟩

def keyList : Capabilities := ⟨0x20000⟩

def ds13 : Capabilities := ⟨0x40000⟩

end Capabilities

end DomainLocator.Netlogon

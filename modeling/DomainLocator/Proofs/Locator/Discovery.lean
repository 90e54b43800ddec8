import DomainLocator.Proofs.Ber.Sizes
import DomainLocator.Proofs.Locator.Decision
import DomainLocator.Proofs.Zone.Publishing
import Mathlib

/-! How a client finds the domain controller of a configuration. The services of the zone lead to the name of a host,
the name to its address, and the search in the directory to the same name. -/

namespace DomainLocator

namespace Directory

lemma length_netlogonAttribute_le (value : Octets) :
    (Ldap.Attribute.write ⟨netlogonAttribute, [value]⟩).length ≤ 8 * value.length + 41 := by
  have hname : (Ber.writeText netlogonAttribute).length = 10 := by decide
  have hvalue : (Ber.writeOctets value).length ≤ 2 * value.length + 3 := Ber.length_element_le ..
  have hset : (Ber.writeList .set Ber.writeOctets [value]).length ≤ 2 * (Ber.writeOctets value).length + 3 := by
    rw [Ber.writeList, List.flatMap_singleton]
    exact Ber.length_element_le ..
  have hattribute := Ber.length_element_le (Ber.tagOf .sequence)
    (Ber.writeText netlogonAttribute ++ Ber.writeList .set Ber.writeOctets [value])
  rw [List.length_append] at hattribute
  exact Nat.le_trans hattribute (by omega)

lemma fits_of_operation {m : Ldap.Message} (h : m.operation.write.length ≤ 0xffffffff) : Ber.Fits m.toOctets := by
  have hid := Ber.length_writeInteger_le m.id
  have hmessage := Ber.length_element_le (Ber.tagOf .sequence) (Ber.writeInteger m.id ++ m.operation.write)
  rw [List.length_append] at hmessage
  have hcapacity : Octets.capacity Ber.maxLengthOctets = 18446744073709551616 := by decide
  rw [Ber.Fits, hcapacity, Ldap.Message.toOctets]
  omega

lemma fits_entry {value : Octets} (id : Int32) (h : value.length ≤ 0xffffff) : Ber.Fits (entry id value).toOctets := by
  apply fits_of_operation
  have hattribute := length_netlogonAttribute_le value
  have hobject : (Ber.writeText "").length = 2 := by decide
  have hlist : (Ber.writeList .sequence Ldap.Attribute.write [⟨netlogonAttribute, [value]⟩]).length ≤
      2 * (Ldap.Attribute.write ⟨netlogonAttribute, [value]⟩).length + 3 := by
    rw [Ber.writeList, List.flatMap_singleton]
    exact Ber.length_element_le ..
  have hentry := Ber.length_element_le Ldap.Operation.entryTag
    (Ber.writeText "" ++ Ber.writeList .sequence Ldap.Attribute.write [⟨netlogonAttribute, [value]⟩])
  rw [List.length_append] at hentry
  exact Nat.le_trans hentry (by omega)

lemma fits_done (id : Int32) : Ber.Fits (done id .success "").toOctets := by
  apply fits_of_operation
  have hlength : (Ldap.Operation.done { result := .success, diagnostic := "" }).write.length = 9 := by decide
  rw [done, hlength]
  omega

end Directory

namespace Config

open Dns (Name)
open Ldap (Message SearchRequest)
open Netlogon (Guid Response Version)

variable {c : Config} {n : Name}

namespace Publishable

lemma mem_netlogon_names (c : Config) (domainGuid : Guid) (hn : n ∈ (c.netlogon domainGuid).names) :
    n = .ofDotted c.realm ∨ n = .ofDotted c.hostName ∨ n = .single "" ∨ n = .single c.site := by
  simp only [netlogon, Response.names, List.map_cons, List.map_nil, List.cons_append, List.nil_append,
    Option.toList_none, List.mem_cons, List.not_mem_nil, or_false] at hn
  tauto

lemma encodable_netlogon (h : c.Publishable) (domainGuid : Guid) :
    ∀ n ∈ (c.netlogon domainGuid).names, n.Encodable := by
  intro n hn
  rcases mem_netlogon_names c domainGuid hn with rfl | rfl | rfl | rfl
  · exact h.realm.encodable
  · exact h.rootless_hostName.encodable
  · exact Name.encodable_single (by decide)
  · exact Name.encodable_single h.site

lemma length_netlogon (h : c.Publishable) (domainGuid : Guid) {value : Octets}
    (hp : (c.netlogon domainGuid).pack = .ok value) : value.length ≤ 0xffffff := by
  have hname : ∀ n ∈ (c.netlogon domainGuid).names, (Name.literalForm n.labels).length ≤ 0xffff := by
    intro n hn
    have htarget := h.target
    have hrealm : (Name.literalForm (Name.ofDotted c.realm).labels).length ≤
        (Name.literalForm (Name.ofDotted c.hostName).labels).length := h.host.length_literalForm_le h.realm
    have hsite := Name.length_literalForm_single h.site
    rcases mem_netlogon_names c domainGuid hn with rfl | rfl | rfl | rfl
    · omega
    · omega
    · decide
    · omega
  have hsum := List.sum_le_card_nsmul ((c.netlogon domainGuid).names.map fun n => (Name.literalForm n.labels).length)
    0xffff (by simpa using hname)
  have hcount : (c.netlogon domainGuid).names.length = 8 := rfl
  have hlength := Response.length_of_pack hp
  rw [List.length_map, hcount, smul_eq_mul, ← List.length_flatMap] at hsum
  omega

lemma canonical_netlogon (h : c.Publishable) (domainGuid : Guid) :
    (c.netlogon domainGuid).canonical = c.netlogon domainGuid := by
  simp only [Response.canonical, netlogon, h.realm.dropStop, h.rootless_hostName.dropStop]
  rfl

end Publishable

lemma directory_eq (c : Config) (domainGuid : Guid) :
    c.directory domainGuid = .ok (Registry.empty.insert c.realm (c.netlogon domainGuid)).1 :=
  accepted_eq_ok_iff.mpr (Prod.ext rfl (Registry.insert_eq_ok_iff.mpr (Registry.find?_empty c.realm)))

lemma registered?_directory {domain : Octets} (domainGuid : Guid)
    (h : Text.eqIgnoreCase (Text.Utf8.decodeLossy domain) c.realm) :
    Directory.registered? (Registry.empty.insert c.realm (c.netlogon domainGuid)).1 (some domain) =
      some (c.netlogon domainGuid) := by
  have hfind := Registry.find?_insert .empty c.realm (c.netlogon domainGuid) (Text.Utf8.decodeLossy domain)
  rwa [Registry.find?_empty, Option.none_or, if_pos (Text.lowerCase_of_eqIgnoreCase h).symm] at hfind

lemma Publishable.answers_search (h : c.Publishable) {domainGuid : Guid} {d : Directory} {datagram version : Octets}
    {id : Int32} {search : SearchRequest} (hm : Message.ofOctets datagram = .ok ⟨id, .request search⟩)
    (hr : d.registered? (search.filter.valuesOf "DnsDomain").head? = some (c.netlogon domainGuid))
    (hv : (search.filter.valuesOf "NtVer").head? = some version) (hl : 4 ≤ version.length)
    (hv5 : (Directory.versionWord version).testBit 2 = true) (hip : (Directory.versionWord version).testBit 3 = false) :
    ∃ reply value, d.answerDatagram datagram = .ok reply ∧
      Message.Decodes reply [⟨id, .entry { object := "", attributes := [⟨"Netlogon", [value]⟩] }⟩,
        ⟨id, .done { result := .success, matchedDn := "", diagnostic := "" }⟩] ∧
      Response.unpack value ⟨.ofNat (Directory.versionWord version)⟩ = .ok (c.netlogon domainGuid) := by
  obtain ⟨value, hp⟩ := Response.exists_pack (h.encodable_netlogon domainGuid)
  have hserved : Directory.Decision d id (search.filter.valuesOf "DnsDomain").head?
      (search.filter.valuesOf "NtVer").head? _ :=
    .served (by simpa [hv] using hl) hr (by simpa [hv] using hv5) (by simpa [hv] using hip) hp
  refine ⟨_, value, Directory.answerDatagram_eq_ok.mpr ⟨_, _, hm, hserved.respond, rfl⟩, Message.decodes_flatMap ?_, ?_⟩
  · have hentry := Directory.reads_entry (Directory.fits_entry id (h.length_netlogon domainGuid hp))
    simpa using ⟨hentry, Directory.reads_done rfl (Directory.fits_done id)⟩
  · have hskipped := Directory.skipped_of_isServed (Directory.isServed_ofNat_iff.mpr ⟨hv5, hip⟩)
    rw [Response.unpack_asked hp hskipped (.inl rfl), h.canonical_netlogon]

theorem locates (c : Config) (addr : Address.Ipv4) (domainGuid : Guid) (hc : c.Publishable)
    (hl : c.listen = .v4 addr) :
    let target := Name.ofDotted (c.host ++ "." ++ c.realm)
    let ldap := Name.ofDotted ("_ldap._tcp.dc._msdcs." ++ c.realm)
    let kerberos := Name.ofDotted ("_kerberos._tcp.dc._msdcs." ++ c.realm)
    ∃ z d, c.zone = .ok z ∧ c.directory domainGuid = .ok d ∧
    (∀ q, q.type = .srv → ldap.eqIgnoreCase q.name → z.Publishes q
      { name := ldap, ttl := 600, data := .srv { priority := 0, weight := 100, port := c.ldapPort, target } }) ∧
    (∀ q, q.type = .srv → kerberos.eqIgnoreCase q.name → z.Publishes q
      { name := kerberos, ttl := 600, data := .srv { priority := 0, weight := 100, port := c.kdcPort, target } }) ∧
    (∀ q, q.type = .a → target.eqIgnoreCase q.name → z.Publishes q
      { name := target, ttl := 3600, data := .a addr }) ∧
    ∀ datagram id search domain version, Message.ofOctets datagram = .ok ⟨id, .request search⟩ →
      (search.filter.valuesOf "DnsDomain").head? = some domain →
      Text.eqIgnoreCase (Text.Utf8.decodeLossy domain) c.realm →
      (search.filter.valuesOf "NtVer").head? = some version → 4 ≤ version.length →
      (Directory.versionWord version).testBit 2 = true → (Directory.versionWord version).testBit 3 = false →
      ∃ reply value back, d.answerDatagram datagram = .ok reply ∧
        Message.Decodes reply [⟨id, .entry { object := "", attributes := [⟨"Netlogon", [value]⟩] }⟩,
          ⟨id, .done { result := .success, matchedDn := "", diagnostic := "" }⟩] ∧
        Response.unpack value ⟨.ofNat (Directory.versionWord version)⟩ = .ok back ∧
        back.domainGuid = domainGuid ∧ back.dnsDomain = c.realm ∧ back.dnsForest = c.realm ∧
        back.dnsHost = target.dotted ∧ target.dotted = c.host ++ "." ++ c.realm := by
  intro target ldap kerberos
  refine ⟨_, _, zone_eq hl, c.directory_eq domainGuid, fun q => hc.publishes_ldapService addr,
    fun q => hc.publishes_kerberosService addr, fun q => hc.publishes_host addr, ?_⟩
  intro datagram id search domain version hm hdomain hcase hv hlong hv5 hip
  have hr := registered?_directory domainGuid hcase
  rw [← hdomain] at hr
  obtain ⟨reply, value, hreply, hdecodes, hback⟩ := hc.answers_search hm hr hv hlong hv5 hip
  have htarget : target.dotted = c.host ++ "." ++ c.realm := Name.dotted_ofDotted c.hostName
  exact ⟨reply, value, _, hreply, hdecodes, hback, rfl, rfl, rfl, htarget.symm, htarget⟩

def contosoGuid : Guid := ⟨1, 2, 3, 4⟩

def contosoRequest : Message :=
  ⟨7, .request (Directory.searchFor "CONTOSO.com" [4, 0, 0, 0])⟩

theorem locates_contoso : Publishable {} ∧ ∃ z d, zone {} = .ok z ∧ directory {} contosoGuid = .ok d ∧
    z.Publishes ⟨⟨["_LDAP", "_tcp", "DC", "_msdcs", "Contoso", "com"]⟩, .srv, .internet⟩
      { name := ⟨["_ldap", "_tcp", "dc", "_msdcs", "contoso", "com"]⟩, ttl := 600
        data := .srv ⟨0, 100, 389, ⟨["dc01", "contoso", "com"]⟩⟩ } ∧
    z.Publishes ⟨⟨["dc01", "contoso", "com"]⟩, .a, .internet⟩
      { name := ⟨["dc01", "contoso", "com"]⟩, ttl := 3600, data := .a .localhost } ∧
    ∃ reply value back, d.answerDatagram contosoRequest.toOctets = .ok reply ∧
      Message.Decodes reply [⟨7, .entry { object := "", attributes := [⟨"Netlogon", [value]⟩] }⟩,
        ⟨7, .done { result := .success, matchedDn := "", diagnostic := "" }⟩] ∧
      Response.unpack value ⟨4⟩ = .ok back ∧ back.dnsHost = "dc01.contoso.com" := by
  have hc : Publishable {} := ⟨by decide +kernel, by decide +kernel, by decide +kernel, by decide +kernel⟩
  have hldap : Name.ofDotted ("_ldap._tcp.dc._msdcs." ++ "contoso.com") =
      ⟨["_ldap", "_tcp", "dc", "_msdcs", "contoso", "com"]⟩ := by decide +kernel
  have htarget : Name.ofDotted ("dc01" ++ "." ++ "contoso.com") = ⟨["dc01", "contoso", "com"]⟩ := by decide +kernel
  have hfits : contosoRequest.toOctets.length < UInt64.size := by decide
  have hm : Message.ofOctets contosoRequest.toOctets = .ok contosoRequest :=
    Message.ofOctets_written (by rintro _ ⟨⟩; decide) hfits
  obtain ⟨hdomain, hversion⟩ := Directory.values_searchFor "CONTOSO.com" [4, 0, 0, 0]
  obtain ⟨z, d, hz, hd, hservice, _, hhost, hsearch⟩ := locates {} .localhost contosoGuid hc rfl
  obtain ⟨reply, value, back, hreply, hdecodes, hback, _, _, _, hname, htext⟩ := hsearch _ 7 _ _ _ hm
    (congrArg List.head? hdomain) (by decide +kernel) (congrArg List.head? hversion) (by decide) (by decide) (by decide)
  rw [hldap, htarget] at hservice
  rw [htarget] at hhost
  exact ⟨hc, z, d, hz, hd, hservice _ rfl (by decide +kernel), hhost _ rfl (by decide +kernel), reply, value, back,
    hreply, hdecodes, hback, hname.trans htext⟩

end Config

end DomainLocator

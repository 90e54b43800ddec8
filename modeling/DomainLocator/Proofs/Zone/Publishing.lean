import DomainLocator.Config
import DomainLocator.Proofs.Zone.OwnerNames
import DomainLocator.Proofs.Zone.Registered
import Mathlib

namespace DomainLocator

namespace Dns.Name

variable {n : Name} {s t : String}

def Rootless (n : Name) : Prop :=
  ∀ label ∈ n.labels, label ≠ "" ∧ (Text.Utf8.encode label).length ≤ 63

instance (n : Name) : Decidable n.Rootless :=
  inferInstanceAs (Decidable (∀ label ∈ n.labels, _))

namespace Rootless

lemma dropRoot (h : n.Rootless) : dropRoot n.labels = n.labels :=
  dropRoot_eq_self fun hm => (h "" hm).1 rfl

lemma canonical (h : n.Rootless) : n.canonical = n := by
  rw [Name.canonical, h.dropRoot]

lemma encodable (h : n.Rootless) : n.Encodable := by
  intro label hl
  exact h label (h.dropRoot ▸ hl)

lemma dropStop (h : (ofDotted s).Rootless) : Text.dropStop s = s := by
  rw [← dotted_canonical_ofDotted, h.canonical, dotted_ofDotted]

lemma append (hs : (ofDotted s).Rootless) (ht : (ofDotted t).Rootless) :
    (ofDotted (s ++ '.'.toString ++ t)).Rootless := by
  intro label hl
  rw [ofDotted, Text.Separated.split_append_sep] at hl
  exact (List.mem_append.mp hl).elim (hs label) (ht label)

lemma length_literalForm_le (hs : (ofDotted s).Rootless) (ht : (ofDotted t).Rootless) :
    (literalForm (ofDotted t).labels).length ≤ (literalForm (ofDotted (s ++ '.'.toString ++ t)).labels).length := by
  rw [literalForm, literalForm, ht.dropRoot, (hs.append ht).dropRoot, ofDotted, ofDotted,
    Text.Separated.split_append_sep]
  simp only [List.flatMap_append, List.length_append]
  omega

lemma of_eqIgnoreCase {m : Name} (h : n.Rootless) (he : n.eqIgnoreCase m) : m.Rootless := by
  intro label hl
  have hf : label.toList.map Char.toLower ∈ n.folded := by
    rw [eqIgnoreCase_iff.mp he]
    exact List.mem_map_of_mem hl
  obtain ⟨label', hl', hf⟩ := List.mem_map.mp hf
  obtain ⟨hne, hle⟩ := h label' hl'
  have hlength := Text.Utf8.length_encode_of_eqIgnoreCase (Text.eqIgnoreCase_iff.mpr hf)
  refine ⟨?_, by omega⟩
  rintro rfl
  exact hne (by simpa using hf)

end Rootless

end Dns.Name

namespace Zone

open Dns (Name Question Record Message)

variable {z : Zone} {q : Question} {r : Record} {c : Registration} {realm : String} {before history : List Registration}

/-- Whoever asks the question alone gets the record for an answer, and nothing else. -/
structure Publishes (z : Zone) (q : Question) (r : Record) : Prop where
  askable : ∀ id flags, ∃ datagram, (Message.asking id flags q).toOctets = .ok datagram
  answered : ∀ datagram request, Message.ofOctets datagram = .ok request → request.questions = [q] →
    ∃ reply, z.answerDatagram datagram = .ok reply ∧
      Message.ofOctets reply = .ok { Message.asking request.id ⟨0x8580⟩ q with answers := [r] }

lemma publishes_of_answer? (ha : (ofHistory realm history).answer? q = some r) (hq : q.name.Encodable)
    (hw : r.Writable) (hr : r.withoutRoots = r) : (ofHistory realm history).Publishes q r := by
  refine ⟨fun id flags => Message.exists_asking id flags hq, ?_⟩
  intro datagram request hd hasked
  have hrespond : (ofHistory realm history).respond request =
      { Message.asking request.id ⟨0x8580⟩ q with answers := [r] } := by
    rw [respond_eq, hasked]
    simp [Message.asking, answers, ha]
  have hrecords : ∀ r ∈ ((ofHistory realm history).respond request).records, r.Writable := by
    simpa [hrespond, Message.asking, Message.records] using hw
  obtain ⟨reply, hreply, hback⟩ := answerDatagram_readable hd (by simpa [hasked] using hq) hrecords
  refine ⟨reply, hreply, ?_⟩
  rw [hback, hrespond]
  simp [Message.asking, Message.withoutRoots, hr]

lemma Registration.serves_of_eqIgnoreCase (ht : q.type = c.record.type)
    (hn : (Name.ofDotted c.name).eqIgnoreCase q.name) : c.Serves q := by
  obtain ⟨_, htext⟩ := (Name.dotless_ofDotted c.name).eqIgnoreCase_iff.mp hn
  rw [Name.dotted_ofDotted] at htext
  exact ⟨ht.symm, Text.lowerCase_of_eqIgnoreCase htext⟩

lemma Registration.not_serves_host (hq : q.type = .srv) (name : String) (addr : Address.Ipv4) :
    ¬ (host name addr).Serves q := by
  rw [serves_host, hq]
  simp

lemma register_ofHistory (h : ∀ c' ∈ before, ¬ c'.Serves (c.question .internet)) :
    (ofHistory realm before).register c = (ofHistory realm (before ++ [c]), .ok ()) := by
  have hnone : (ofHistory realm before).answer? (c.question .internet) = none := by
    rw [answer?_ofHistory, firstServing, Option.map_eq_none_iff, List.find?_eq_none]
    simpa using h
  exact Prod.ext (ofHistory_concat realm before c).symm ((register_eq_ok_iff (c.serves_own_question _)).mpr hnone)

lemma publishes (before after : List Registration) (hc : ((ofHistory realm before).register c).2 = .ok ())
    (hname : (Name.ofDotted c.name).Rootless) (hw : c.record.Writable) (hr : c.record.withoutRoots = c.record)
    (ht : q.type = c.record.type) (hn : (Name.ofDotted c.name).eqIgnoreCase q.name) :
    (ofHistory realm (before ++ c :: after)).Publishes q c.record :=
  publishes_of_answer? (answer?_of_register hc (Registration.serves_of_eqIgnoreCase ht hn) after)
    (hname.of_eqIgnoreCase hn).encodable hw hr

end Zone

namespace Config

open Dns (Name)

variable {c : Config} {addr : Address.Ipv4} {q : Dns.Question}

/-- The names can be written in full, and the place of a service has a length that fits. -/
structure Publishable (c : Config) : Prop where
  realm : (Name.ofDotted c.realm).Rootless
  host : (Name.ofDotted c.host).Rootless
  site : (Text.Utf8.encode c.site).length ≤ 63
  target : 6 + (Name.literalForm (Name.ofDotted c.hostName).labels).length ≤ 0xffff

def kerberosService (c : Config) : Zone.Registration :=
  .service c.kerberosName c.hostName c.kdcPort

def ldapService (c : Config) : Zone.Registration :=
  .service c.ldapName c.hostName c.ldapPort

def registrations (c : Config) (addr : Address.Ipv4) : List Zone.Registration :=
  [.host c.hostName addr, c.kerberosService, c.ldapService]

lemma serviceKeys_ne (c : Config) : Text.lowerCase c.kerberosName ≠ Text.lowerCase c.ldapName := by
  intro h
  have hk : c.kerberosName.toList = "_kerberos._tcp.dc._msdcs.".toList ++ c.realm.toList := String.toList_append
  have hl : c.ldapName.toList = "_ldap._tcp.dc._msdcs.".toList ++ c.realm.toList := String.toList_append
  have hlower := String.ofList_inj.mp h
  have hplain : ∀ c ∈ "_kerberos._tcp.dc._msdcs.".toList, Text.LowerCase.IsPlain c :=
    Text.LowerCase.isPlain_of_all_ascii (by decide)
  have hplain' : ∀ c ∈ "_ldap._tcp.dc._msdcs.".toList, Text.LowerCase.IsPlain c :=
    Text.LowerCase.isPlain_of_all_ascii (by decide)
  obtain ⟨_, hkerberos⟩ := Text.LowerCase.ofList_append hplain c.realm.toList
  obtain ⟨_, hldap⟩ := Text.LowerCase.ofList_append hplain' c.realm.toList
  rw [hk, hl, hkerberos, hldap] at hlower
  -- The second characters differ, whatever becomes of the realm.
  simp at hlower

lemma register_host (c : Config) (addr : Address.Ipv4) :
    (Zone.ofHistory c.realm []).register (.host c.hostName addr) =
      (.ofHistory c.realm [.host c.hostName addr], .ok ()) :=
  Zone.register_ofHistory (by simp)

lemma register_kerberosService (c : Config) (addr : Address.Ipv4) :
    (Zone.ofHistory c.realm [.host c.hostName addr]).register c.kerberosService =
      (.ofHistory c.realm [.host c.hostName addr, c.kerberosService], .ok ()) := by
  apply Zone.register_ofHistory
  rw [List.forall_mem_singleton]
  exact Zone.Registration.not_serves_host rfl c.hostName addr

lemma register_ldapService (c : Config) (addr : Address.Ipv4) :
    (Zone.ofHistory c.realm [.host c.hostName addr, c.kerberosService]).register c.ldapService =
      (.ofHistory c.realm [.host c.hostName addr, c.kerberosService, c.ldapService], .ok ()) := by
  apply Zone.register_ofHistory
  rw [List.forall_mem_cons, List.forall_mem_singleton]
  refine ⟨Zone.Registration.not_serves_host rfl c.hostName addr, ?_⟩
  rintro ⟨_, hkey⟩
  rw [Zone.Registration.question, Name.key, Name.dotted_ofDotted] at hkey
  exact c.serviceKeys_ne hkey

namespace Publishable

lemma rootless_hostName (h : c.Publishable) : (Name.ofDotted c.hostName).Rootless :=
  h.host.append h.realm

lemma rootless_kerberosName (h : c.Publishable) : (Name.ofDotted c.kerberosName).Rootless := by
  have hname : c.kerberosName = "_kerberos._tcp.dc._msdcs" ++ '.'.toString ++ c.realm := rfl
  rw [hname]
  exact .append (by decide +kernel) h.realm

lemma rootless_ldapName (h : c.Publishable) : (Name.ofDotted c.ldapName).Rootless := by
  have hname : c.ldapName = "_ldap._tcp.dc._msdcs" ++ '.'.toString ++ c.realm := rfl
  rw [hname]
  exact .append (by decide +kernel) h.realm

lemma writable_host (h : c.Publishable) (addr : Address.Ipv4) : (Zone.hostRecord c.hostName addr).Writable where
  names := by simpa [Zone.hostRecord, Dns.RecordData.names] using h.rootless_hostName.encodable
  data := by simp [Zone.hostRecord, Dns.RecordData.literalForm, Address.Ipv4.octets, Octets.length_bigEndian]

lemma writable_service {name : String} (h : c.Publishable) (hn : (Name.ofDotted name).Rootless) (port : UInt16) :
    (Zone.serviceRecord name c.hostName port).Writable where
  names := by
    simpa [Zone.serviceRecord, Dns.RecordData.names] using And.intro hn.encodable h.rootless_hostName.encodable
  data := by
    simpa [Zone.serviceRecord, Dns.RecordData.literalForm, Octets.length_bigEndian, ← Nat.add_assoc] using h.target

lemma withoutRoots_host (h : c.Publishable) (addr : Address.Ipv4) :
    (Zone.hostRecord c.hostName addr).withoutRoots = Zone.hostRecord c.hostName addr := by
  rw [Dns.Record.withoutRoots, Zone.hostRecord, h.rootless_hostName.canonical]
  rfl

lemma withoutRoots_service {name : String} (h : c.Publishable) (hn : (Name.ofDotted name).Rootless) (port : UInt16) :
    (Zone.serviceRecord name c.hostName port).withoutRoots = Zone.serviceRecord name c.hostName port := by
  rw [Dns.Record.withoutRoots, Zone.serviceRecord, hn.canonical, Dns.RecordData.canonical, Dns.Srv.canonical,
    h.rootless_hostName.canonical]

lemma publishes_host (h : c.Publishable) (addr : Address.Ipv4) (ht : q.type = .a)
    (hn : (Name.ofDotted c.hostName).eqIgnoreCase q.name) :
    (Zone.ofHistory c.realm (c.registrations addr)).Publishes q (Zone.hostRecord c.hostName addr) :=
  Zone.publishes [] [c.kerberosService, c.ldapService] (congrArg Prod.snd (c.register_host addr)) h.rootless_hostName
    (h.writable_host addr) (h.withoutRoots_host addr) ht hn

lemma publishes_service {name : String} {port : UInt16} {before : List Zone.Registration} (h : c.Publishable)
    (hc : ((Zone.ofHistory c.realm before).register (.service name c.hostName port)).2 = .ok ())
    (hname : (Name.ofDotted name).Rootless) (after : List Zone.Registration) (ht : q.type = .srv)
    (hn : (Name.ofDotted name).eqIgnoreCase q.name) :
    (Zone.ofHistory c.realm (before ++ .service name c.hostName port :: after)).Publishes q
      (Zone.serviceRecord name c.hostName port) :=
  Zone.publishes before after hc hname (h.writable_service hname port) (h.withoutRoots_service hname port) ht hn

lemma publishes_kerberosService (h : c.Publishable) (addr : Address.Ipv4) (ht : q.type = .srv)
    (hn : (Name.ofDotted c.kerberosName).eqIgnoreCase q.name) :
    (Zone.ofHistory c.realm (c.registrations addr)).Publishes q
      (Zone.serviceRecord c.kerberosName c.hostName c.kdcPort) :=
  h.publishes_service (congrArg Prod.snd (c.register_kerberosService addr)) h.rootless_kerberosName [c.ldapService]
    ht hn

lemma publishes_ldapService (h : c.Publishable) (addr : Address.Ipv4) (ht : q.type = .srv)
    (hn : (Name.ofDotted c.ldapName).eqIgnoreCase q.name) :
    (Zone.ofHistory c.realm (c.registrations addr)).Publishes q
      (Zone.serviceRecord c.ldapName c.hostName c.ldapPort) :=
  h.publishes_service (congrArg Prod.snd (c.register_ldapService addr)) h.rootless_ldapName [] ht hn

end Publishable

lemma zone_eq (hl : c.listen = .v4 addr) : c.zone = .ok (.ofHistory c.realm (c.registrations addr)) := by
  rw [zone, hl]
  exact Dns.bind_eq_ok_iff.mpr ⟨_, accepted_eq_ok_iff.mpr (c.register_host addr), Dns.bind_eq_ok_iff.mpr
    ⟨_, accepted_eq_ok_iff.mpr (c.register_kerberosService addr), accepted_eq_ok_iff.mpr (c.register_ldapService addr)⟩⟩

end Config

end DomainLocator

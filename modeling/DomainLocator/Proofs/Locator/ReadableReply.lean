import DomainLocator.Locator
import DomainLocator.Proofs.Netlogon.ResponseRoundTrip
import Mathlib

/-! What a client makes of the entry that it is sent, reading it with the version flags of its own request. A
registered response is sent as it is, so one that names a next closest site misleads a client that did not ask for it.
-/

namespace DomainLocator.Directory

open Dns (bind_eq_ok_iff mapError_eq_ok_iff)
open Ldap (Filter Message SearchRequest SearchEntry)
open Netlogon (Version Response)

variable {d : Directory} {request m : Message} {replies : List Message} {search : SearchRequest} {e : SearchEntry}
  {id : Int32}

lemma answerSearch_entry (h : d.answerSearch id search = .ok replies) (hm : m ∈ replies)
    (he : m.operation = .entry e) : ∃ version domain response value, requestedVersion search = .ok version ∧
      requestedDomain? search = some domain ∧ d.find? domain = some response ∧ isServed version ∧
      response.pack = .ok value ∧ e.attributes = [⟨"Netlogon", [value]⟩] := by
  obtain ⟨version, hv, h⟩ := bind_eq_ok_iff.mp h
  cases hd : (requestedDomain? search).bind d.find? with
  | none =>
    rw [hd] at h
    cases h
    cases List.mem_singleton.mp hm
    contradiction
  | some response =>
    obtain ⟨domain, hdomain, hr⟩ := Option.bind_eq_some_iff.mp hd
    rw [hd] at h
    by_cases hs : isServed version
    · simp only [hs, if_true] at h
      obtain ⟨value, hp, h⟩ := bind_eq_ok_iff.mp h
      cases h
      rcases List.mem_cons.mp hm with rfl | hm
      · cases he
        exact ⟨version, domain, response, value, hv, hdomain, hr, hs, mapError_eq_ok_iff.mp hp, rfl⟩
      · cases List.mem_singleton.mp hm
        contradiction
    · simp only [hs] at h
      cases h
      cases List.mem_singleton.mp hm
      contradiction

lemma answerSearch_served {version : Version} {domain : String} {response : Response} {value : Octets}
    (hv : requestedVersion search = .ok version) (hd : requestedDomain? search = some domain)
    (hr : d.find? domain = some response) (hs : isServed version) (hp : response.pack = .ok value) :
    d.answerSearch id search = .ok [entry id value, done id .success ""] := by
  rw [answerSearch, hv, hd]
  simp only [bind, Except.bind, Option.bind, hr, hs, hp, if_true]
  rfl

lemma skipped_of_isServed {version : Version} (h : isServed version) : Response.skipped version = 0 := by
  rw [isServed, Bool.and_eq_true, Bool.not_eq_true'] at h
  rw [Response.skipped, h.2]
  rfl

/-- Every entry can be unpacked, and gives all that stands before the next closest site. The trailer is right
as well unless there is such a site that the client did not ask for. -/
theorem unpack_of_respond (h : d.respond request = .ok replies) (hm : m ∈ replies) (he : m.operation = .entry e) :
    ∃ search version domain response value back, request.operation = .request search ∧
      requestedVersion search = .ok version ∧ requestedDomain? search = some domain ∧
      d.find? domain = some response ∧ e.attributes = [⟨"Netlogon", [value]⟩] ∧
      Response.unpack value version = .ok back ∧ back.withoutTail = response.canonical.withoutTail ∧
      (back.nextClosestSite ≠ none → version.contains Version.withClosestSite ∧ response.nextClosestSite ≠ none) ∧
      (response.nextClosestSite = none ∨ version.contains Version.withClosestSite → back = response.canonical) := by
  rw [respond] at h
  split at h
  · rename_i search hsearch
    obtain ⟨version, domain, response, value, hv, hdomain, hr, hs, hp, hvalue⟩ := answerSearch_entry h hm he
    have hskipped := skipped_of_isServed hs
    by_cases hsite : response.nextClosestSite = none ∨ version.contains Version.withClosestSite
    · have hback := Response.unpack_asked hp hskipped hsite
      exact ⟨search, version, domain, response, value, response.canonical, hsearch, hv, hdomain, hr, hvalue, hback,
        rfl, fun hne => ⟨hsite.resolve_left hne, hne⟩, fun _ => rfl⟩
    · obtain ⟨back, hback, hnone, htail⟩ := Response.unpack_unasked hp hskipped (not_or.mp hsite).2
      exact ⟨search, version, domain, response, value, back, hsearch, hv, hdomain, hr, hvalue, hback, htail,
        fun hne => (hne hnone).elim, fun hasked => (hsite hasked).elim⟩
  · contradiction

def searchFor (domain : String) (version : Octets) : SearchRequest where
  filter := .and [.equality "DnsDomain" (Text.Utf8.encode domain), .equality "NtVer" version]
  attributes := ["Netlogon"]

lemma requestedDomain?_searchFor (domain : String) (version : Octets) :
    requestedDomain? (searchFor domain version) = some domain := by
  have hv : (searchFor domain version).filter.value? domainClause = some (Text.Utf8.encode domain) := rfl
  rw [requestedDomain?, hv, Option.map_some, Text.Utf8.decodeLossy_encode]

lemma requestedVersion_searchFor {domain : String} {version : Octets} (h : 4 ≤ version.length) :
    requestedVersion (searchFor domain version) = .ok ⟨UInt32.ofNat (Octets.ofLittleEndian (version.take 4))⟩ := by
  have hn : Text.eqIgnoreCase "DnsDomain" versionClause = false := by decide +kernel
  have hv : (searchFor domain version).filter.value? versionClause = some version := by
    simp only [searchFor, Filter.value?, List.findSome?, Filter.clauseValue?, hn]
    rfl
  rw [requestedVersion, hv]
  exact if_pos h

def office : Response where
  dnsForest := "b"
  dnsDomain := "b"
  dnsHost := "dc.b"
  netbiosDomain := "B"
  netbiosComputer := "DC"
  dcSite := "Head"
  clientSite := "Head"
  nextClosestSite := some "Branch"
  version := ⟨5⟩
  lmNtToken := 0xffff
  lm20Token := 0xffff

def officeOctets : Octets := [
  23, 0, 0, 0, 0, 0, 0, 0, 0, 0, 0, 0, 0, 0, 0, 0, 0, 0, 0, 0, 0, 0, 0, 0, 1, 98, 0, 192, 24, 2, 100, 99, 192, 24, 1,
  66, 0, 2, 68, 67, 0, 0, 4, 72, 101, 97, 100, 0, 192, 42, 6, 66, 114, 97, 110, 99, 104, 0, 5, 0, 0, 0, 255, 255, 255,
  255]

def officeDirectory : Directory :=
  ⟨(∅ : Std.HashMap String Response).insert "b" office⟩

def officeSearch (version : Octets) : SearchRequest where
  filter := .and [.equality "DnsDomain" [98], .equality "NtVer" version]
  attributes := ["Netlogon"]

def officeReplies : List Message :=
  [entry 7 officeOctets, done 7 .success ""]

lemma officeSearch_eq (version : Octets) : officeSearch version = searchFor "b" version := by
  have hb : Text.Utf8.encode "b" = [98] := by decide
  rw [officeSearch, searchFor, hb]

lemma requestedDomain?_officeSearch (version : Octets) : requestedDomain? (officeSearch version) = some "b" := by
  rw [officeSearch_eq, requestedDomain?_searchFor]

lemma requestedVersion_officeSearch {version : Octets} (h : 4 ≤ version.length) :
    requestedVersion (officeSearch version) = .ok ⟨UInt32.ofNat (Octets.ofLittleEndian (version.take 4))⟩ := by
  rw [officeSearch_eq, requestedVersion_searchFor h]

lemma find?_officeDirectory : officeDirectory.find? "b" = some office := by cbv

lemma respond_officeSearch {version : Octets} (h : 4 ≤ version.length)
    (hs : isServed ⟨UInt32.ofNat (Octets.ofLittleEndian (version.take 4))⟩) :
    officeDirectory.respond ⟨7, .request (officeSearch version)⟩ = .ok officeReplies := by
  have hp : office.pack = .ok officeOctets := by cbv
  exact answerSearch_served (requestedVersion_officeSearch h) (requestedDomain?_officeSearch version)
    find?_officeDirectory hs hp

theorem unpack_officeReplies :
    officeDirectory.respond ⟨7, .request (officeSearch [0x14, 0, 0, 0])⟩ = .ok officeReplies ∧
      entry 7 officeOctets ∈ officeReplies ∧
      (entry 7 officeOctets).operation = .entry ⟨"", [⟨"Netlogon", [officeOctets]⟩]⟩ ∧
      Response.unpack officeOctets ⟨0x14⟩ = .ok office.canonical := by
  have h : officeDirectory.respond ⟨7, .request (officeSearch [0x14, 0, 0, 0])⟩ = .ok officeReplies :=
    respond_officeSearch (by decide) (by decide)
  have hm : entry 7 officeOctets ∈ officeReplies := List.mem_cons_self
  have he : (entry 7 officeOctets).operation = .entry ⟨"", [⟨"Netlogon", [officeOctets]⟩]⟩ := rfl
  refine ⟨h, hm, he, ?_⟩
  obtain ⟨search, version, domain, response, value, back, hsearch, hv, hd, hr, hvalue, hback, _, _, hasked⟩ :=
    unpack_of_respond h hm he
  cases hsearch
  cases hvalue
  rw [requestedVersion_officeSearch (by decide)] at hv
  rw [requestedDomain?_officeSearch] at hd
  cases hv
  cases hd
  rw [find?_officeDirectory] at hr
  cases hr
  rw [← hasked (.inr (by decide))]
  exact hback

def Readable (response : Response) (version : Version) (value : Octets) : Prop :=
  ∃ back, Response.unpack value version = .ok back ∧
    { back with nextClosestSite := none } = { response.canonical with nextClosestSite := none } ∧
    (back.nextClosestSite ≠ none → version.contains Version.withClosestSite ∧ response.nextClosestSite ≠ none)

theorem unasked_site_misread :
    officeDirectory.respond ⟨7, .request (officeSearch [4, 0, 0, 0])⟩ = .ok officeReplies ∧
      requestedVersion (officeSearch [4, 0, 0, 0]) = .ok ⟨4⟩ ∧
      requestedDomain? (officeSearch [4, 0, 0, 0]) = some "b" ∧ officeDirectory.find? "b" = some office ∧
      ¬ Readable office ⟨4⟩ officeOctets := by
  have hread : Response.unpack officeOctets ⟨4⟩ = .ok { office with
      nextClosestSite := none, version := ⟨0x61724206⟩, lmNtToken := 0x636e, lm20Token := 0x68 } := by cbv
  refine ⟨respond_officeSearch (by decide) (by decide), requestedVersion_officeSearch (by decide),
    requestedDomain?_officeSearch _, find?_officeDirectory, ?_⟩
  rintro ⟨back, hback, hsame, _⟩
  cases hread.symm.trans hback
  exact absurd (congrArg Response.version hsame) (by decide)

end DomainLocator.Directory

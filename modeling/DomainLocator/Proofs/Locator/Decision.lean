import DomainLocator.Proofs.Locator.Datagram

/-! Which replies a search gets. They are decided by the first clause on the domain and the first on the version, in
an order that matters: a version that is too short is an error whatever the domain. -/

namespace DomainLocator

namespace Ldap.Filter

def clause? : Filter → Option (String × Octets)
  | .and _ => none
  | .equality name value => some (name, value)

/-- The clauses that count: those right inside an AND, or the filter itself. -/
def clauses : Filter → List (String × Octets)
  | .and filters => filters.filterMap clause?
  | .equality name value => [(name, value)]

def valuesOf (wanted : String) (f : Filter) : List Octets :=
  (f.clauses.filter fun c => Text.eqIgnoreCase c.1 wanted).map (·.2)

lemma findSome?_clauseValue? (wanted : String) (filters : List Filter) :
    filters.findSome? (clauseValue? wanted) = (valuesOf wanted (.and filters)).head? := by
  rw [valuesOf, clauses]
  induction filters with
  | nil => rfl
  | cons f filters ih =>
    cases f with
    | and inner => exact ih
    | equality name value =>
      rw [List.findSome?_cons, clauseValue?, List.filterMap_cons, clause?, List.filter_cons]
      by_cases h : Text.eqIgnoreCase name wanted
      · simp [h]
      · simp [h, ih]

lemma value?_eq_head? (wanted : String) (f : Filter) : f.value? wanted = (f.valuesOf wanted).head? := by
  cases f with
  | and filters => exact findSome?_clauseValue? wanted filters
  | equality name value =>
    by_cases h : Text.eqIgnoreCase name wanted <;> simp [value?, clauseValue?, valuesOf, clauses, h]

end Ldap.Filter

lemma Netlogon.FlagWord.contains_ofNat {named : List (String × UInt32)} (n : Nat) {bit : Nat} (h : bit < 32) :
    (⟨.ofNat n⟩ : FlagWord named).contains ⟨.ofNat (2 ^ bit)⟩ = n.testBit bit := by
  have hpow : 2 ^ bit < 2 ^ 32 := Nat.pow_lt_pow_right (by decide) h
  have hand : (UInt32.ofNat n &&& UInt32.ofNat (2 ^ bit)).toNat = (n.testBit bit).toNat * 2 ^ bit := by
    rw [UInt32.toNat_and, UInt32.toNat_ofNat', UInt32.toNat_ofNat', Nat.mod_eq_of_lt hpow, Nat.and_two_pow,
      Nat.testBit_mod_two_pow, decide_eq_true h, Bool.true_and]
  rw [contains, Bool.eq_iff_iff, beq_iff_eq, ← UInt32.toNat_inj, hand, UInt32.toNat_ofNat', Nat.mod_eq_of_lt hpow]
  cases n.testBit bit <;> simp [(Nat.two_pow_pos bit).ne]

namespace Directory

open Ldap (Filter Message SearchRequest)
open Netlogon (FlagWord Version Response)

def registered? (d : Directory) (domain : Option Octets) : Option Response :=
  domain.bind fun bs => d.entries[Text.lowerCase (Text.Utf8.decodeLossy bs)]?

/-- Only the first four octets count. Bit 2 is that of the extended response, bit 3 of one with an address. -/
def versionWord (version : Octets) : Nat :=
  Octets.ofLittleEndian (version.take 4)

inductive Decision (d : Directory) (id : Int32) (domain version : Option Octets) :
    Except ServiceError (List Message) → Prop
  | shortVersion {bs : Octets} (hv : version = some bs) (hl : bs.length < 4) :
      Decision d id domain version (.error (.invalidVersion bs.length))
  | unknown (hl : ∀ bs ∈ version, 4 ≤ bs.length) (hr : d.registered? domain = none) :
      Decision d id domain version (.ok [⟨id, .done {
        result := .other
        matchedDn := ""
        diagnostic := "cannot find registered info for domain '" ++
          (domain.map Text.Utf8.decodeLossy).getD "" ++ "'" }⟩])
  | unserved {response : Response} (hl : ∀ bs ∈ version, 4 ≤ bs.length) (hr : d.registered? domain = some response)
      (hf : (versionWord (version.getD [])).testBit 2 = false ∨ (versionWord (version.getD [])).testBit 3 = true) :
      Decision d id domain version (.ok [⟨id, .done {
        result := .other
        matchedDn := ""
        diagnostic := "can only respond to requests for NETLOGON_NT_VERSION_5EX" }⟩])
  | served {response : Response} {value : Octets} (hl : ∀ bs ∈ version, 4 ≤ bs.length)
      (hr : d.registered? domain = some response) (hv5 : (versionWord (version.getD [])).testBit 2 = true)
      (hip : (versionWord (version.getD [])).testBit 3 = false) (hp : response.pack = .ok value) :
      Decision d id domain version (.ok [
        ⟨id, .entry { object := "", attributes := [⟨"Netlogon", [value]⟩] }⟩,
        ⟨id, .done { result := .success, matchedDn := "", diagnostic := "" }⟩])
  | unpackable {response : Response} {cause : WireError} (hl : ∀ bs ∈ version, 4 ≤ bs.length)
      (hr : d.registered? domain = some response) (hv5 : (versionWord (version.getD [])).testBit 2 = true)
      (hip : (versionWord (version.getD [])).testBit 3 = false) (hp : response.pack = .error cause) :
      Decision d id domain version (.error (.wire cause))

section Deciding

variable {d : Directory} {id : Int32} {search : SearchRequest} {domain version : Option Octets}
  {result : Except ServiceError (List Message)}

lemma requestedDomain?_eq : requestedDomain? search =
    (search.filter.valuesOf "DnsDomain").head?.map Text.Utf8.decodeLossy := by
  rw [requestedDomain?, Filter.value?_eq_head?, domainClause]

lemma find?_requestedDomain? :
    (requestedDomain? search).bind d.find? = d.registered? (search.filter.valuesOf "DnsDomain").head? := by
  rw [requestedDomain?_eq, Option.bind_map]
  rfl

lemma requestedVersion_of_long (hl : ∀ bs ∈ (search.filter.valuesOf "NtVer").head?, 4 ≤ bs.length) :
    requestedVersion search = .ok ⟨.ofNat (versionWord ((search.filter.valuesOf "NtVer").head?.getD []))⟩ := by
  rw [requestedVersion, Filter.value?_eq_head?, versionClause]
  cases hv : (search.filter.valuesOf "NtVer").head? with
  | none => rfl
  | some bs => exact if_pos (hl bs hv)

lemma isServed_ofNat_iff {n : Nat} : isServed ⟨.ofNat n⟩ ↔ n.testBit 2 = true ∧ n.testBit 3 = false := by
  have hv5 : (⟨.ofNat n⟩ : Version).contains Version.v5ex = n.testBit 2 :=
    FlagWord.contains_ofNat n (show 2 < 32 by decide)
  have hip : (⟨.ofNat n⟩ : Version).contains Version.v5exWithIp = n.testBit 3 :=
    FlagWord.contains_ofNat n (show 3 < 32 by decide)
  rw [isServed, hv5, hip, Bool.and_eq_true, Bool.not_eq_true']

lemma Decision.respond (h : Decision d id (search.filter.valuesOf "DnsDomain").head?
    (search.filter.valuesOf "NtVer").head? result) : d.respond ⟨id, .request search⟩ = result := by
  rw [respond_request rfl]
  cases h with
  | shortVersion hv hl =>
    have hvalue := (Filter.value?_eq_head? versionClause search.filter).trans hv
    have hfault : Fault d ⟨id, .request search⟩ _ := .shortVersion rfl hvalue hl
    exact hfault.respond
  | unknown hl hr =>
    rw [← requestedDomain?_eq]
    rw [← find?_requestedDomain?] at hr
    exact answerSearch_unknown (requestedVersion_of_long hl) hr
  | unserved hl hr hf =>
    rw [← find?_requestedDomain?] at hr
    refine answerSearch_unserved (requestedVersion_of_long hl) hr ?_
    rw [isServed_ofNat_iff]
    rintro ⟨hv5, hip⟩
    simp [hv5, hip] at hf
  | served hl hr hv5 hip hp =>
    rw [← find?_requestedDomain?] at hr
    obtain ⟨domain, hd, hfind⟩ := Option.bind_eq_some_iff.mp hr
    exact answerSearch_served (requestedVersion_of_long hl) hd hfind (isServed_ofNat_iff.mpr ⟨hv5, hip⟩) hp
  | unpackable hl hr hv5 hip hp =>
    rw [← find?_requestedDomain?] at hr
    obtain ⟨domain, hd, hfind⟩ := Option.bind_eq_some_iff.mp hr
    exact answerSearch_unpackable (requestedVersion_of_long hl) hd hfind (isServed_ofNat_iff.mpr ⟨hv5, hip⟩) hp

lemma exists_decision (d : Directory) (id : Int32) (domain version : Option Octets) :
    ∃ result, Decision d id domain version result := by
  by_cases hl : ∀ bs ∈ version, 4 ≤ bs.length
  · cases hr : d.registered? domain with
    | none => exact ⟨_, .unknown hl hr⟩
    | some response =>
      cases hv5 : (versionWord (version.getD [])).testBit 2 with
      | false => exact ⟨_, .unserved hl hr (.inl hv5)⟩
      | true =>
        cases hip : (versionWord (version.getD [])).testBit 3 with
        | true => exact ⟨_, .unserved hl hr (.inr hip)⟩
        | false =>
          cases hp : response.pack with
          | ok value => exact ⟨_, .served hl hr hv5 hip hp⟩
          | error cause => exact ⟨_, .unpackable hl hr hv5 hip hp⟩
  · push Not at hl
    obtain ⟨bs, hbs, hl⟩ := hl
    exact ⟨_, .shortVersion hbs hl⟩

lemma respond_eq_iff : d.respond ⟨id, .request search⟩ = result ↔ Decision d id
    (search.filter.valuesOf "DnsDomain").head? (search.filter.valuesOf "NtVer").head? result := by
  refine ⟨?_, Decision.respond⟩
  rintro rfl
  obtain ⟨result, h⟩ := exists_decision d id (search.filter.valuesOf "DnsDomain").head?
    (search.filter.valuesOf "NtVer").head?
  rw [h.respond]
  exact h

lemma Decision.eq_invalidVersion_iff {size : Nat} : Decision d id domain version (.error (.invalidVersion size)) ↔
    ∃ bs, version = some bs ∧ bs.length < 4 ∧ bs.length = size := by
  constructor
  · intro h
    cases h with
    | shortVersion hv hl => exact ⟨_, hv, hl, rfl⟩
  · rintro ⟨bs, hv, hl, rfl⟩
    exact .shortVersion hv hl

lemma Decision.id_eq {replies : List Message} (h : Decision d id domain version (.ok replies)) :
    ∀ m ∈ replies, m.id = id := by
  cases h <;> simp

theorem respond_decides (d : Directory) (id : Int32) (search : SearchRequest) :
    let domain := (search.filter.valuesOf "DnsDomain").head?
    let version := (search.filter.valuesOf "NtVer").head?
    let outcome := d.respond ⟨id, .request search⟩
    (∀ result, outcome = result ↔ Decision d id domain version result) ∧
      (∀ size, outcome = .error (.invalidVersion size) ↔
        ∃ bs, version = some bs ∧ bs.length < 4 ∧ bs.length = size) ∧
      ∀ replies, outcome = .ok replies → ∀ m ∈ replies, m.id = id := by
  intro domain version outcome
  refine ⟨fun result => respond_eq_iff, ?_, ?_⟩
  · intro size
    rw [respond_eq_iff, Decision.eq_invalidVersion_iff]
  · intro replies h
    exact (respond_eq_iff.mp h).id_eq

lemma values_searchFor (domain : String) (version : Octets) :
    (searchFor domain version).filter.valuesOf "DnsDomain" = [Text.Utf8.encode domain] ∧
      (searchFor domain version).filter.valuesOf "NtVer" = [version] := by
  have hd : Text.eqIgnoreCase "DnsDomain" "DnsDomain" ∧ ¬ Text.eqIgnoreCase "DnsDomain" "NtVer" := by decide +kernel
  have hv : Text.eqIgnoreCase "NtVer" "NtVer" ∧ ¬ Text.eqIgnoreCase "NtVer" "DnsDomain" := by decide +kernel
  simp [searchFor, Filter.valuesOf, Filter.clauses, Filter.clause?, hd, hv]

theorem respond_decides_office :
    officeDirectory.respond ⟨7, .request (searchFor "c" [4, 0, 0])⟩ = .error (.invalidVersion 3) ∧
    officeDirectory.respond ⟨7, .request (searchFor "c" [0, 0, 0, 0])⟩ = .ok [⟨7, .done {
      result := .other, matchedDn := "", diagnostic := "cannot find registered info for domain 'c'" }⟩] ∧
    officeDirectory.respond ⟨8, .request (searchFor "B" [12, 0, 0, 0])⟩ = .ok [⟨8, .done {
      result := .other, matchedDn := ""
      diagnostic := "can only respond to requests for NETLOGON_NT_VERSION_5EX" }⟩] ∧
    officeDirectory.respond ⟨9, .request (searchFor "B" [4, 0, 0, 0])⟩ = .ok [
      ⟨9, .entry { object := "", attributes := [⟨"Netlogon", [officeOctets]⟩] }⟩,
      ⟨9, .done { result := .success, matchedDn := "", diagnostic := "" }⟩] := by
  have hother : officeDirectory.registered? (some (Text.Utf8.encode "c")) = none := by cbv
  have hoffice : officeDirectory.registered? (some (Text.Utf8.encode "B")) = some office := by cbv
  have hp : office.pack = .ok officeOctets := by cbv
  refine ⟨((respond_decides ..).1 _).mpr ?_, ((respond_decides ..).1 _).mpr ?_, ((respond_decides ..).1 _).mpr ?_,
    ((respond_decides ..).1 _).mpr ?_⟩
  all_goals rw [(values_searchFor ..).1, (values_searchFor ..).2]
  · exact .shortVersion rfl (by decide)
  · have hunknown : Decision officeDirectory 7 (some (Text.Utf8.encode "c")) (some [0, 0, 0, 0]) _ :=
      .unknown (by simp) hother
    rwa [Option.map_some, Option.getD_some, Text.Utf8.decodeLossy_encode] at hunknown
  · exact .unserved (by simp) hoffice (.inr (by decide))
  · exact .served (by simp) hoffice (by decide) (by decide) hp

end Deciding

section Relevance

structure Unambiguous (f : Filter) : Prop where
  domain : (f.valuesOf "DnsDomain").length ≤ 1
  version : (f.valuesOf "NtVer").length ≤ 1

/-- The clauses that count have the same values, of the version only up to its first four octets. -/
structure Agree (f g : Filter) : Prop where
  domain : ∀ bs, bs ∈ f.valuesOf "DnsDomain" ↔ bs ∈ g.valuesOf "DnsDomain"
  version : ∀ bs, bs ∈ (f.valuesOf "NtVer").map (List.take 4) ↔
    bs ∈ (g.valuesOf "NtVer").map (List.take 4)

variable {s t : SearchRequest}

lemma eq_of_mem_iff {α : Type} {l l' : List α} (hl : l.length ≤ 1) (hl' : l'.length ≤ 1)
    (h : ∀ a, a ∈ l ↔ a ∈ l') : l = l' := by
  match l, l', hl, hl' with
  | [], [], _, _ => rfl
  | [a], [b], _, _ => simpa using h a
  | [], [b], _, _ => simp at h
  | [a], [], _, _ => simp at h

lemma requestedVersion_congr (h : (s.filter.valuesOf "NtVer").head?.map (List.take 4) =
    (t.filter.valuesOf "NtVer").head?.map (List.take 4)) : requestedVersion s = requestedVersion t := by
  rw [requestedVersion, requestedVersion, Filter.value?_eq_head?, Filter.value?_eq_head?, versionClause]
  cases hs : (s.filter.valuesOf "NtVer").head? with
  | none =>
    rw [hs, Option.map_none, eq_comm, Option.map_eq_none_iff] at h
    rw [h]
  | some bs =>
    rw [hs, Option.map_some, eq_comm, Option.map_eq_some_iff] at h
    obtain ⟨bs', ht, htake⟩ := h
    have hlength := congrArg List.length htake
    simp only [List.length_take] at hlength
    rw [ht]
    dsimp only
    by_cases hbs : 4 ≤ bs.length
    · rw [if_pos hbs, if_pos (by omega), htake]
    · have hsame : bs'.length = bs.length := by omega
      rw [if_neg hbs, if_neg (by omega), hsame]

theorem respond_eq_of_agree (d : Directory) (id : Int32) (hs : Unambiguous s.filter) (ht : Unambiguous t.filter)
    (h : Agree s.filter t.filter) : d.respond ⟨id, .request s⟩ = d.respond ⟨id, .request t⟩ := by
  have hdomain := eq_of_mem_iff hs.domain ht.domain h.domain
  have hversion : (s.filter.valuesOf "NtVer").map (List.take 4) =
      (t.filter.valuesOf "NtVer").map (List.take 4) :=
    eq_of_mem_iff (by simpa using hs.version) (by simpa using ht.version) h.version
  have hv : requestedVersion s = requestedVersion t := by
    apply requestedVersion_congr
    rw [← List.head?_map, ← List.head?_map, hversion]
  have hd : requestedDomain? s = requestedDomain? t := by
    rw [requestedDomain?_eq, requestedDomain?_eq, hdomain]
  rw [respond_request rfl, respond_request rfl, answerSearch, answerSearch, hd, hv]

def crowdedSearch : SearchRequest where
  base := "cn=office"
  scope := .wholeSubtree
  sizeLimit := 9
  typesOnly := true
  filter := .and [.equality "ntver" [0x14, 0, 0, 0, 0xff], .and [.equality "DnsDomain" [99], .equality "NtVer" []],
    .equality "Host" [104], .equality "DNSDOMAIN" [98]]

theorem respond_crowdedSearch :
    Unambiguous (officeSearch [0x14, 0, 0, 0]).filter ∧ Unambiguous crowdedSearch.filter ∧
      Agree (officeSearch [0x14, 0, 0, 0]).filter crowdedSearch.filter ∧
      officeDirectory.respond ⟨7, .request crowdedSearch⟩ = .ok officeReplies := by
  have hs : Unambiguous (officeSearch [0x14, 0, 0, 0]).filter := ⟨by decide +kernel, by decide +kernel⟩
  have ht : Unambiguous crowdedSearch.filter := ⟨by decide +kernel, by decide +kernel⟩
  have hdomain : (officeSearch [0x14, 0, 0, 0]).filter.valuesOf "DnsDomain" =
      crowdedSearch.filter.valuesOf "DnsDomain" := by decide +kernel
  have hversion : ((officeSearch [0x14, 0, 0, 0]).filter.valuesOf "NtVer").map (List.take 4) =
      (crowdedSearch.filter.valuesOf "NtVer").map (List.take 4) := by decide +kernel
  have h : Agree (officeSearch [0x14, 0, 0, 0]).filter crowdedSearch.filter :=
    ⟨fun bs => by rw [hdomain], fun bs => by rw [hversion]⟩
  refine ⟨hs, ht, h, ?_⟩
  rw [← respond_eq_of_agree officeDirectory 7 hs ht h]
  exact respond_officeSearch (by decide) (by decide)

end Relevance

end Directory

end DomainLocator

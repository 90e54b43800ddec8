import DomainLocator.Netlogon.Response
import DomainLocator.Proofs.Dns.MessageEncoding
import DomainLocator.Proofs.Dns.NameText

/-! A response whose names can be written is packed, and unpacked again by whoever knows what its request asked for:
neither the address of the server nor the next closest site has a mark of its own. -/

namespace DomainLocator.Netlogon

open Dns (Name Writer Interrupted RoundTrip bind_eq_ok_iff bind_eq_error_iff)

def Opcode.canonical : Opcode → Opcode
  | .other code => .ofCode code
  | opcode => opcode

lemma Opcode.ofCode_code_eq (opcode : Opcode) : ofCode opcode.code = opcode.canonical := by
  cases opcode with
  | other code => rfl
  | _ => exact ofCode_code (by simp)

namespace Response

variable {r head : Response} {w w' : Writer} {buf : Buffer} {request : Version} {pos : Nat}

def canonical (r : Response) : Response :=
  { r with
    opcode := r.opcode.canonical
    dnsForest := Text.dropStop r.dnsForest
    dnsDomain := Text.dropStop r.dnsDomain
    dnsHost := Text.dropStop r.dnsHost }

def fixedNames (r : Response) : List Name :=
  [r.dnsForest, r.dnsDomain, r.dnsHost].map Name.ofDotted ++
    [r.netbiosDomain, r.netbiosComputer, r.user, r.dcSite, r.clientSite].map Name.single

def writeSites (r : Response) (w : Writer) : Except Interrupted Writer :=
  (w.append r.header).all (Name.write true) r.fixedNames

def packSites (r : Response) : Except WireError Octets :=
  match r.writeSites {} with
  | .ok w => .ok w.octets.toList
  | .error stop => .error stop.cause

def withoutTail (r : Response) : Response :=
  { r with nextClosestSite := none, version := ⟨0⟩, lmNtToken := 0, lm20Token := 0 }

def ofSites (opcode : UInt16) (flags : UInt32) (guid : Octets) : List String → Response
  | [dnsForest, dnsDomain, dnsHost, netbiosDomain, netbiosComputer, user, dcSite, clientSite] =>
    { opcode := .ofCode opcode, flags := ⟨flags⟩, domainGuid := .ofOctets guid
      dnsForest, dnsDomain, dnsHost, netbiosDomain, netbiosComputer, user, dcSite, clientSite }
  | _ => {}

def readSites (buf : Buffer) : Except WireError (Response × Nat) := do
  let (opcode, pos) ← buf.littleWord16 0
  let (_, pos) ← buf.littleWord16 pos
  let (flags, pos) ← buf.littleWord32 pos
  let (guid, pos) ← buf.field 16 pos
  let (names, pos) ← Buffer.many (readName buf) 8 pos
  return (ofSites opcode flags guid names, pos)

def readTail (request : Version) (buf : Buffer) (head : Response) (pos : Nat) : Except WireError Response := do
  let (nextClosestSite, pos) ← readNextSite request buf pos
  let (version, pos) ← buf.littleWord32 pos
  let (lmNtToken, pos) ← buf.littleWord16 pos
  let (lm20Token, _) ← buf.littleWord16 pos
  return { head with nextClosestSite, version := ⟨version⟩, lmNtToken, lm20Token }

def skipped (request : Version) : Nat :=
  if request.contains Version.v5exWithIp then addressSize else 0

lemma read_eq (request : Version) (buf : Buffer) : read request buf =
    readSites buf >>= fun (head, pos) => readTail request buf head (pos + skipped request) := by
  have hp : ∀ pos, (if request.contains Version.v5exWithIp then pos + addressSize else pos) =
      pos + skipped request := by
    intro pos
    rw [skipped]
    split <;> rfl
  simp only [read, readSites, readTail, Buffer.many_succ, Buffer.many_zero, bind_assoc, pure_bind, hp]
  rfl

lemma write_eq_ok (h : r.write w = .ok w') : ∃ u v, r.writeSites w = .ok u ∧
    u.all (Name.write true) (r.nextClosestSite.toList.map Name.single) = .ok v ∧ w' = v.append r.trailer := by
  obtain ⟨v, hv, h⟩ := bind_eq_ok_iff.mp h
  have hnames : r.names = r.fixedNames ++ r.nextClosestSite.toList.map Name.single := rfl
  rw [hnames, Writer.all, List.foldlM_append] at hv
  obtain ⟨u, hu, hv⟩ := bind_eq_ok_iff.mp hv
  exact ⟨u, v, hu, hv, (Except.ok.inj h).symm⟩

lemma readName_roundTrip {n : Name} (hw : w.Faithful) (h : n.write true w = .ok w') :
    RoundTrip readName w w' (n.canonical.dotted, w'.octets.size) := by
  have hn := hw.name h
  refine ⟨hn.faithful, hn.continues, ?_⟩
  intro buf hc
  rw [readName, hn.reads hc]
  rfl

lemma names_roundTrip {names : List Name} (hw : w.Faithful) (h : w.all (Name.write true) names = .ok w') :
    RoundTrip (fun buf => Buffer.many (readName buf) names.length) w w'
      (names.map (·.canonical.dotted), w'.octets.size) := by
  refine .many ?_ hw h
  intro n v v' hv hn
  exact readName_roundTrip hv hn

lemma length_header (r : Response) : r.header.length = 24 := by
  simp only [header, List.length_append, Octets.length_littleEndian, Guid.length_octets]

lemma readSites_of_continues (h : r.writeSites {} = .ok w) (hc : Continues w.octets buf.toArray) :
    readSites buf = .ok (r.canonical.withoutTail, w.octets.size) := by
  have hnames := names_roundTrip (Writer.faithful_empty.append r.header) h
  have hfields := Dns.holdsAt_append (.trans hnames.continues hc)
  simp only [header, List.append_assoc, HoldsAt.append_iff, Octets.length_littleEndian, Array.size_empty] at hfields
  obtain ⟨hopcode, hzero, hflags, hguid⟩ := hfields
  have hzero := Buffer.littleWord16_of_holdsAt (n := 0) hzero
  have hguid := Buffer.field_of_holdsAt (by decide) r.domainGuid.length_octets hguid
  have hsize : (Writer.append {} r.header).octets.size = 0 + 2 + 2 + 4 + 16 := by
    rw [Writer.octets_append, size_append_octets, length_header]
    rfl
  have hread := hnames.reads hc
  rw [hsize] at hread
  have hlength : r.fixedNames.length = 8 := rfl
  rw [hlength] at hread
  rw [readSites, Buffer.littleWord16_of_holdsAt hopcode]
  simp only [bind, Except.bind, pure, Except.pure, hzero, Buffer.littleWord32_of_holdsAt hflags, hguid, hread]
  simp only [fixedNames, List.map_cons, List.map_nil, List.cons_append, List.nil_append,
    Name.dotted_canonical_ofDotted, Name.dotted_canonical_single, ofSites, Opcode.ofCode_code_eq,
    Guid.ofOctets_octets]
  rfl

lemma readNextSite_none (h : buf.size = pos + trailerSize) : readNextSite request buf pos = .ok (none, pos) := by
  rw [readNextSite, if_neg]
  rw [h, Nat.add_sub_cancel_left]
  exact fun hm => Nat.lt_irrefl _ hm.2

lemma readNextSite_some {site : String} {past : Nat} (hr : request.contains Version.withClosestSite)
    (hs : Name.Stands buf.toArray pos (Name.single site).labels past) (h : buf.size = past + trailerSize) :
    readNextSite request buf pos = .ok (some site, past) := by
  have hpast := Name.Spells.lt_past hs
  have hmore : trailerSize < buf.size - pos := by omega
  rw [readNextSite, if_pos ⟨hr, hmore⟩, readName, hs.decode]
  exact congrArg (fun text => Except.ok (some text, past)) (Name.dotted_canonical_single site)

lemma readNextSite_of_write {added : Octets} (hw : w.Faithful) (hc : Continues w.octets buf.toArray)
    (h : w.all (Name.write true) (r.nextClosestSite.toList.map Name.single) = .ok w')
    (ha : w'.octets = w.octets ++ added)
    (hsite : r.nextClosestSite = none ∨ request.contains Version.withClosestSite)
    (hh : HoldsAt buf.toArray pos added) (hsize : buf.size = pos + added.length + trailerSize) :
    readNextSite request buf pos = .ok (r.nextClosestSite, pos + added.length) := by
  cases hn : r.nextClosestSite with
  | none =>
    rw [hn] at h
    cases h
    obtain rfl : added = [] := by simpa using congrArg Array.toList ha
    exact readNextSite_none hsize
  | some site =>
    rw [hn] at h hsite
    obtain ⟨v, hv, h⟩ := bind_eq_ok_iff.mp h
    cases h
    obtain ⟨added', ha', hs⟩ := Name.write_added hw hc hv
    obtain rfl : added = added' := by simpa using congrArg Array.toList (ha.symm.trans ha')
    exact readNextSite_some (hsite.resolve_left (by simp)) (hs pos hh) hsize

lemma readTail_of_holdsAt {site : Option String} {next : Nat} (hs : readNextSite request buf pos = .ok (site, next))
    (h : HoldsAt buf.toArray next r.trailer) : readTail request buf head pos = .ok { head with
      nextClosestSite := site, version := r.version, lmNtToken := r.lmNtToken, lm20Token := r.lm20Token } := by
  simp only [trailer, List.append_assoc, HoldsAt.append_iff, Octets.length_littleEndian] at h
  obtain ⟨hversion, hlmNt, hlm20⟩ := h
  rw [readTail, hs]
  simp only [bind, Except.bind, pure, Except.pure, Buffer.littleWord32_of_holdsAt hversion,
    Buffer.littleWord16_of_holdsAt hlmNt, Buffer.littleWord16_of_holdsAt hlm20]

lemma length_trailer (r : Response) : r.trailer.length = trailerSize := by
  simp only [trailer, List.length_append, Octets.length_littleEndian, trailerSize]

lemma pack_eq_ok {data : Octets} (h : r.pack = .ok data) : ∃ w, r.write {} = .ok w ∧ data = w.octets.toList := by
  rw [pack] at h
  split at h
  · rename_i w hw
    cases h
    exact ⟨w, hw, rfl⟩
  · contradiction

lemma exists_pack (h : ∀ n ∈ r.names, n.Encodable) : ∃ data, r.pack = .ok data := by
  rw [pack]
  cases hw : r.write {} with
  | ok w => exact ⟨_, rfl⟩
  | error stop =>
    rcases bind_eq_error_iff.mp hw with hn | ⟨_, _, hn⟩
    · obtain ⟨n, hn, v, hv⟩ := Writer.all_eq_error hn
      obtain ⟨_, hok⟩ := (h n hn).exists_write true v
      rw [hv] at hok
      contradiction
    · contradiction

lemma length_of_pack (h : r.pack = .ok data) :
    data.length ≤ 32 + (r.names.flatMap fun n => Name.literalForm n.labels).length := by
  obtain ⟨w, hw, rfl⟩ := pack_eq_ok h
  obtain ⟨v, hv, h⟩ := bind_eq_ok_iff.mp hw
  cases h
  have := Name.size_write_all hv
  rw [Writer.octets_append, size_append_octets, length_header] at this
  rw [Array.length_toList, Writer.octets_append, size_append_octets, length_trailer, trailerSize]
  simp only [Array.size_empty] at this
  omega

lemma pack_parts {data : Octets} (h : r.pack = .ok data) : ∃ u v, ∃ added : Octets, r.writeSites {} = .ok u ∧ u.Faithful ∧
    u.all (Name.write true) (r.nextClosestSite.toList.map Name.single) = .ok v ∧ v.octets = u.octets ++ added ∧
    data = u.octets.toList ++ (added ++ r.trailer) := by
  obtain ⟨w, hw, rfl⟩ := pack_eq_ok h
  obtain ⟨u, v, hu, hv, rfl⟩ := write_eq_ok hw
  have hfaithful := (names_roundTrip (Writer.faithful_empty.append r.header) hu).faithful
  obtain ⟨added, ha⟩ := (names_roundTrip hfaithful hv).continues.exists_append
  refine ⟨u, v, added, hu, hfaithful, hv, ha, ?_⟩
  rw [Writer.octets_append, ha, append_octets_append, Array.toList_appendList]

lemma unpack_parts {u v : Writer} {added gap : Octets} (hu : r.writeSites {} = .ok u) (hfaithful : u.Faithful)
    (hv : u.all (Name.write true) (r.nextClosestSite.toList.map Name.single) = .ok v) (ha : v.octets = u.octets ++ added)
    (hsite : r.nextClosestSite = none ∨ request.contains Version.withClosestSite)
    (hgap : gap.length = skipped request) :
    unpack (u.octets.toList ++ gap ++ (added ++ r.trailer)) request = .ok r.canonical := by
  generalize hbuf : Buffer.ofOctets (u.octets.toList ++ gap ++ (added ++ r.trailer)) = buf
  have hc : Continues u.octets buf.toArray := by
    rw [← hbuf, List.append_assoc]
    exact Buffer.continues_ofOctets ..
  have hpos : (u.octets.toList ++ gap).length = u.octets.size + skipped request := by
    rw [List.length_append, Array.length_toList, hgap]
  have hh : HoldsAt buf.toArray (u.octets.size + skipped request) (added ++ r.trailer) := by
    rw [← hbuf, ← hpos]
    exact Buffer.holdsAt_ofOctets ..
  obtain ⟨hadded, htrailer⟩ := HoldsAt.append_iff.mp hh
  have hsize : buf.size = u.octets.size + skipped request + added.length + trailerSize := by
    rw [← hbuf, Buffer.size_ofOctets, List.length_append, hpos, List.length_append, length_trailer]
    exact (Nat.add_assoc ..).symm
  have hnext := readNextSite_of_write hfaithful hc hv ha hsite hadded hsize
  rw [unpack, hbuf, read_eq, readSites_of_continues hu hc]
  exact readTail_of_holdsAt hnext htrailer

lemma unpack_asked {data : Octets} (h : r.pack = .ok data) (haddress : skipped request = 0)
    (hsite : r.nextClosestSite = none ∨ request.contains Version.withClosestSite) :
    unpack data request = .ok r.canonical := by
  obtain ⟨u, v, added, hu, hfaithful, hv, ha, rfl⟩ := pack_parts h
  have hgap : ([] : Octets).length = skipped request := haddress.symm
  have hread := unpack_parts hu hfaithful hv ha hsite hgap
  rwa [List.append_nil] at hread

lemma exists_readTail (hsite : ¬ request.contains Version.withClosestSite) (h : pos + trailerSize ≤ buf.size) :
    ∃ back, readTail request buf head pos = .ok back ∧ back.nextClosestSite = none ∧
      back.withoutTail = head.withoutTail := by
  rw [trailerSize] at h
  have hnext : readNextSite request buf pos = .ok (none, pos) := by
    rw [readNextSite, if_neg (fun hm => hsite hm.1)]
  have hthree : pos + 4 ≤ buf.size ∧ pos + 4 + 2 ≤ buf.size ∧ pos + 4 + 2 + 2 ≤ buf.size := by omega
  obtain ⟨version, hversion⟩ := Buffer.exists_littleWord32 hthree.1
  obtain ⟨lmNt, hlmNt⟩ := Buffer.exists_littleWord16 hthree.2.1
  obtain ⟨lm20, hlm20⟩ := Buffer.exists_littleWord16 hthree.2.2
  rw [readTail, hnext]
  simp only [bind, Except.bind, pure, Except.pure, hversion, hlmNt, hlm20]
  exact ⟨_, rfl, rfl, rfl⟩

lemma unpack_unasked {data : Octets} (h : r.pack = .ok data) (haddress : skipped request = 0)
    (hsite : ¬ request.contains Version.withClosestSite) : ∃ back, unpack data request = .ok back ∧
      back.nextClosestSite = none ∧ back.withoutTail = r.canonical.withoutTail := by
  obtain ⟨u, v, added, hu, hfaithful, hv, ha, rfl⟩ := pack_parts h
  generalize hbuf : Buffer.ofOctets (u.octets.toList ++ (added ++ r.trailer)) = buf
  have hc : Continues u.octets buf.toArray := hbuf ▸ Buffer.continues_ofOctets ..
  have hsize : u.octets.size + trailerSize ≤ buf.size := by
    rw [← hbuf, Buffer.size_ofOctets, List.length_append, List.length_append, length_trailer, Array.length_toList]
    omega
  rw [unpack, hbuf, read_eq, readSites_of_continues hu hc, haddress]
  exact exists_readTail hsite hsize

theorem unpack_pack {data address : Octets} (h : r.pack = .ok data)
    (hsite : r.nextClosestSite = none ∨ request.contains Version.withClosestSite)
    (haddress : address.length = 17) : ∃ before after, r.packSites = .ok before ∧ data = before ++ after ∧
      unpack (before ++ (if request.contains Version.v5exWithIp then address else []) ++ after) request =
        .ok r.canonical := by
  obtain ⟨u, v, added, hu, hfaithful, hv, ha, rfl⟩ := pack_parts h
  refine ⟨u.octets.toList, added ++ r.trailer, by rw [packSites, hu], rfl, ?_⟩
  apply unpack_parts hu hfaithful hv ha hsite
  rw [skipped]
  split
  · exact haddress
  · rfl

def branchOffice : Response where
  opcode := .other 23
  flags := ⟨0x3fd⟩
  domainGuid := ⟨1, 2, 3, 4⟩
  dnsForest := "b."
  dnsDomain := "c.b."
  dnsHost := "d.c.b"
  netbiosDomain := "C.B"
  netbiosComputer := "D"
  dcSite := "Head"
  clientSite := "Branch"
  nextClosestSite := some "Head"
  version := ⟨5⟩
  lmNtToken := 0xffff
  lm20Token := 0xfffe

def branchOctets : Octets := [
  23, 0, 0, 0, 253, 3, 0, 0, 1, 0, 0, 0, 2, 0, 3, 0, 0, 0, 0, 0, 0, 0, 0, 4, 1, 98, 0, 1, 99, 192, 24, 1, 100, 1,
  99, 1, 98, 0, 3, 67, 46, 66, 0, 1, 68, 0, 0, 4, 72, 101, 97, 100, 0, 6, 66, 114, 97, 110, 99, 104, 0, 192, 47, 5,
  0, 0, 0, 255, 255, 254, 255]

def branchRequest : Version := ⟨0x1c⟩

def branchAddress : Octets := .replicate 17 2

theorem unpack_branchOffice : branchOffice.pack = .ok branchOctets ∧
    (branchOffice.nextClosestSite = none ∨ branchRequest.contains Version.withClosestSite) ∧
    branchAddress.length = 17 ∧
    ∃ before after, branchOffice.packSites = .ok before ∧ branchOctets = before ++ after ∧
      unpack (before ++ (if branchRequest.contains Version.v5exWithIp then branchAddress else []) ++ after)
        branchRequest = .ok branchOffice.canonical := by
  have h : branchOffice.pack = .ok branchOctets := by cbv
  have hsite : branchOffice.nextClosestSite = none ∨ branchRequest.contains Version.withClosestSite := by decide
  have haddress : branchAddress.length = 17 := by decide
  exact ⟨h, hsite, haddress, unpack_pack h hsite haddress⟩

end Response

end DomainLocator.Netlogon

import DomainLocator.Dns.Question
import DomainLocator.Proofs.Dns.NameCompression
import DomainLocator.Proofs.Dns.Writer

namespace DomainLocator

lemma Address.Ipv4.ofOctets_octets (addr : Address.Ipv4) : ofOctets addr.octets = addr := by
  have hc : addr.bits.toNat % Octets.capacity 4 = addr.bits.toNat := Nat.mod_eq_of_lt addr.bits.toNat_lt
  rw [ofOctets, octets, Octets.ofBigEndian_bigEndian, hc, UInt32.ofNat_toNat]

lemma Address.Ipv6.ofOctets_octets (addr : Address.Ipv6) : ofOctets addr.octets = addr := by
  have hc : addr.bits.toNat % Octets.capacity 16 = addr.bits.toNat := Nat.mod_eq_of_lt addr.bits.isLt
  rw [ofOctets, octets, Octets.ofBigEndian_bigEndian, hc, BitVec.ofNat_toNat, BitVec.setWidth_eq]

namespace Dns

variable {w w' : Writer}

def RecordType.canonical : RecordType → RecordType
  | .other code => .ofCode code
  | type => type

def RecordClass.canonical : RecordClass → RecordClass
  | .other code => .ofCode code
  | recordClass => recordClass

def Question.canonical (q : Question) : Question :=
  { q with name := q.name.canonical, type := q.type.canonical, recordClass := q.recordClass.canonical }

def Soa.canonical (s : Soa) : Soa :=
  { s with primary := s.primary.canonical, mailbox := s.mailbox.canonical }

def Srv.canonical (s : Srv) : Srv :=
  { s with target := s.target.canonical }

def RecordData.canonical : RecordData → RecordData
  | .a addr => .a addr
  | .aaaa addr => .aaaa addr
  | .soa s => .soa s.canonical
  | .srv s => .srv s.canonical

def Record.canonical (r : Record) : Record :=
  { r with name := r.name.canonical, data := r.data.canonical, recordClass := r.recordClass.canonical }

lemma RecordType.ofCode_code_eq (type : RecordType) : ofCode type.code = type.canonical := by
  cases type with
  | other code => rfl
  | _ => exact ofCode_code (by simp)

lemma RecordClass.ofCode_code_eq (recordClass : RecordClass) : ofCode recordClass.code = recordClass.canonical := by
  cases recordClass with
  | other code => rfl
  | _ => exact ofCode_code (by simp)

lemma RecordData.ofCode_type (d : RecordData) : RecordType.ofCode d.type.code = d.type := by
  cases d <;> exact RecordType.ofCode_code (by simp [RecordData.type])

structure RoundTrip {α : Type} (read : Buffer → Nat → Except WireError α) (w w' : Writer) (result : α) : Prop where
  faithful : w'.Faithful
  continues : Continues w.octets w'.octets
  reads : ∀ {buf : Buffer}, Continues w'.octets buf.toArray → read buf w.octets.size = .ok result

lemma Writer.Faithful.name {n : Name} {compress : Bool} (hw : w.Faithful) (h : n.write compress w = .ok w') :
    RoundTrip Name.decode w w' (n.canonical, w'.octets.size) := by
  have hn := Name.write_wrote hw h
  exact ⟨Name.write_faithful hw h, hn.continues, fun hc => (hn.stands.mono hc).decode⟩

lemma holdsAt_append {bs : Octets} {buf : Buffer} (hc : Continues (w.append bs).octets buf.toArray) :
    HoldsAt buf.toArray w.octets.size bs :=
  .mono hc (HoldsAt.at_end ..)

namespace Question

lemma write_eq_ok {q : Question} (h : q.write w = .ok w') : ∃ v, q.name.write true w = .ok v ∧
    w' = v.append (Octets.bigEndian 2 q.type.code.toNat ++ Octets.bigEndian 2 q.recordClass.code.toNat) := by
  obtain ⟨v, hv, h⟩ := bind_eq_ok_iff.mp h
  cases h
  exact ⟨v, hv, Writer.append_append ..⟩

lemma roundTrip {q : Question} (hw : w.Faithful) (h : q.write w = .ok w') :
    RoundTrip Question.read w w' (q.canonical, w'.octets.size) := by
  obtain ⟨v, hv, rfl⟩ := write_eq_ok h
  have hname := hw.name hv
  refine ⟨hname.faithful.append _, .trans hname.continues (.append_octets ..), ?_⟩
  intro buf hc
  have hcodes := holdsAt_append hc
  simp only [HoldsAt.append_iff, Octets.length_bigEndian] at hcodes
  obtain ⟨htype, hclass⟩ := hcodes
  rw [Question.read, hname.reads (.trans (.append_octets ..) hc)]
  simp only [bind, Except.bind, pure, Except.pure, Buffer.word16_of_holdsAt htype, Buffer.word16_of_holdsAt hclass,
    RecordType.ofCode_code_eq, RecordClass.ofCode_code_eq, Writer.octets_append, size_append_octets,
    List.length_append, Octets.length_bigEndian]
  rfl

end Question

namespace Soa

lemma write_eq_ok {s : Soa} (h : s.write w = .ok w') : ∃ u v, s.primary.write true w = .ok u ∧
    s.mailbox.write true u = .ok v ∧ w' = v.append (Octets.bigEndian 4 s.serial.toNat ++
      (Octets.bigEndian 4 s.refresh.toNat ++ (Octets.bigEndian 4 s.retry.toNat ++
        (Octets.bigEndian 4 s.expire.toNat ++ Octets.bigEndian 4 s.minimum.toNat)))) := by
  obtain ⟨u, hu, h⟩ := bind_eq_ok_iff.mp h
  obtain ⟨v, hv, h⟩ := bind_eq_ok_iff.mp h
  refine ⟨u, v, hu, hv, ?_⟩
  rw [← Except.ok.inj h]
  simp only [Writer.word32_eq, Writer.append_append, List.append_assoc]

lemma roundTrip {s : Soa} (hw : w.Faithful) (h : s.write w = .ok w') : RoundTrip Soa.read w w' s.canonical := by
  obtain ⟨u, v, hu, hv, rfl⟩ := write_eq_ok h
  have hprimary := hw.name hu
  have hmailbox := hprimary.faithful.name hv
  refine ⟨hmailbox.faithful.append _, .trans hprimary.continues (.trans hmailbox.continues (.append_octets ..)), ?_⟩
  intro buf hc
  have hv : Continues v.octets buf.toArray := .trans (.append_octets ..) hc
  have hnumbers := holdsAt_append hc
  simp only [HoldsAt.append_iff, Octets.length_bigEndian] at hnumbers
  obtain ⟨hserial, hrefresh, hretry, hexpire, hminimum⟩ := hnumbers
  rw [Soa.read, hprimary.reads (.trans hmailbox.continues hv)]
  simp only [bind, Except.bind, pure, Except.pure, hmailbox.reads hv, Buffer.word32_of_holdsAt hserial,
    Buffer.word32_of_holdsAt hrefresh, Buffer.word32_of_holdsAt hretry, Buffer.word32_of_holdsAt hexpire,
    Buffer.word32_of_holdsAt hminimum]
  rfl

end Soa

namespace Srv

lemma write_eq (s : Srv) (w : Writer) : s.write w = s.target.write false (w.append
    (Octets.bigEndian 2 s.priority.toNat ++ (Octets.bigEndian 2 s.weight.toNat ++
      Octets.bigEndian 2 s.port.toNat))) := by
  rw [Srv.write]
  simp only [Writer.word16_eq, Writer.append_append, List.append_assoc]

lemma roundTrip {s : Srv} (hw : w.Faithful) (h : s.write w = .ok w') : RoundTrip Srv.read w w' s.canonical := by
  rw [write_eq] at h
  have htarget := (hw.append _).name h
  refine ⟨htarget.faithful, .trans (.append_octets ..) htarget.continues, ?_⟩
  intro buf hc
  have hnumbers := holdsAt_append (.trans htarget.continues hc)
  simp only [HoldsAt.append_iff, Octets.length_bigEndian] at hnumbers
  obtain ⟨hpriority, hweight, hport⟩ := hnumbers
  have hd := htarget.reads hc
  simp only [Writer.octets_append, size_append_octets, List.length_append, Octets.length_bigEndian] at hd
  rw [Srv.read, Buffer.word16_of_holdsAt hpriority]
  simp only [bind, Except.bind, pure, Except.pure, Buffer.word16_of_holdsAt hweight, Buffer.word16_of_holdsAt hport,
    Nat.add_assoc, hd]
  rfl

end Srv

namespace RecordData

lemma roundTrip {d : RecordData} (hw : w.Faithful) (h : d.write w = .ok w') :
    RoundTrip (RecordData.read d.type) w w' d.canonical := by
  cases d with
  | a addr =>
    cases h
    refine ⟨hw.append _, .append_octets .., ?_⟩
    intro buf hc
    rw [type, RecordData.read, Buffer.field_of_holdsAt (by decide) (Octets.length_bigEndian ..) (holdsAt_append hc)]
    exact congrArg (Except.ok ∘ RecordData.a) addr.ofOctets_octets
  | aaaa addr =>
    obtain rfl := Except.ok.inj h
    refine ⟨hw.append _, .append_octets .., ?_⟩
    intro buf hc
    rw [type, RecordData.read, Buffer.field_of_holdsAt (by decide) (Octets.length_bigEndian ..) (holdsAt_append hc)]
    exact congrArg (Except.ok ∘ RecordData.aaaa) addr.ofOctets_octets
  | soa s =>
    have hs := Soa.roundTrip hw h
    refine ⟨hs.faithful, hs.continues, ?_⟩
    intro buf hc
    rw [type, RecordData.read, hs.reads hc]
    rfl
  | srv s =>
    have hs := Srv.roundTrip hw h
    refine ⟨hs.faithful, hs.continues, ?_⟩
    intro buf hc
    rw [type, RecordData.read, hs.reads hc]
    rfl

end RecordData

namespace Record

lemma write_eq_ok {r : Record} (h : r.write w = .ok w') : ∃ v length, r.name.write true w = .ok v ∧ length ≤ 0xffff ∧
    r.data.write (v.append (Octets.bigEndian 2 r.type.code.toNat ++ (Octets.bigEndian 2 r.recordClass.code.toNat ++
      (Octets.bigEndian 4 r.ttl.toUInt32.toNat ++ Octets.bigEndian 2 length)))) = .ok w' ∧
    w'.octets.size = v.octets.size + 10 + length := by
  obtain ⟨v, hv, h⟩ := bind_eq_ok_iff.mp h
  obtain ⟨length, hle, hd, hsize⟩ := writeData_eq_ok h
  refine ⟨v, length, hv, hle, ?_, ?_⟩
  · rw [← hd]
    simp only [Writer.word16_eq, Writer.word32_eq, Writer.append_append, List.append_assoc]
  · rw [hsize]
    simp only [Writer.word16_eq, Writer.word32_eq, Writer.octets_append, size_append_octets, Octets.length_bigEndian]

structure Fields where
  code : UInt16
  recordClass : UInt16
  ttl : UInt32
  length : UInt16

def Fields.octets (f : Fields) : Octets :=
  Octets.bigEndian 2 f.code.toNat ++ (Octets.bigEndian 2 f.recordClass.toNat ++
    (Octets.bigEndian 4 f.ttl.toNat ++ Octets.bigEndian 2 f.length.toNat))

lemma Fields.length_octets (f : Fields) : f.octets.length = 10 := by
  simp only [octets, List.length_append, Octets.length_bigEndian]

structure ReadFrom (buf : Buffer) (pos : Nat) (f : Fields) (past : Nat) (r : Record) (stop : Nat) : Prop where
  name : Name.decode buf pos = .ok (r.name, past)
  fields : HoldsAt buf.toArray past f.octets
  stop_eq : stop = past + 10 + f.length.toNat
  stop_le : stop ≤ buf.size
  data : RecordData.read (.ofCode f.code) (buf.cut stop) (past + 10) = .ok r.data
  recordClass : r.recordClass = .ofCode f.recordClass
  ttl : r.ttl = f.ttl.toInt32

lemma ReadFrom.read {r : Record} {f : Fields} {buf : Buffer} {pos past stop : Nat}
    (h : ReadFrom buf pos f past r stop) : read buf pos = .ok (r, stop) := by
  have hfields := h.fields
  simp only [Fields.octets, HoldsAt.append_iff, Octets.length_bigEndian] at hfields
  obtain ⟨hcode, hclass, httl, hlength⟩ := hfields
  have hstop := h.stop_le
  have hdata := h.data
  obtain ⟨name, data, recordClass, ttl⟩ := r
  obtain rfl := h.recordClass
  obtain rfl := h.ttl
  obtain rfl := h.stop_eq
  rw [Record.read, h.name]
  simp only [bind, Except.bind, pure, Except.pure, Buffer.word16_of_holdsAt hcode, Buffer.word16_of_holdsAt hclass,
    Buffer.word32_of_holdsAt httl, Buffer.word16_of_holdsAt hlength]
  rw [if_neg (Nat.not_lt_of_le hstop), hdata]

lemma roundTrip {r : Record} (hw : w.Faithful) (h : r.write w = .ok w') :
    RoundTrip Record.read w w' (r.canonical, w'.octets.size) := by
  obtain ⟨v, length, hv, hle, hd, hsize⟩ := write_eq_ok h
  rw [← Writer.toNat_ofNat_count hle] at hd hsize
  have hname := hw.name hv
  have hdata := RecordData.roundTrip (hname.faithful.append _) hd
  refine ⟨hdata.faithful, .trans hname.continues (.trans (.append_octets ..) hdata.continues), ?_⟩
  intro buf hc
  let f : Fields := ⟨r.type.code, r.recordClass.code, r.ttl.toUInt32, UInt16.ofNat length⟩
  have hv := Continues.trans hdata.continues hc
  have hcut := hdata.reads (Buffer.continues_cut hc)
  simp only [Writer.octets_append, size_append_octets, List.length_append, Octets.length_bigEndian] at hcut
  have hread : ReadFrom buf w.octets.size f v.octets.size r.canonical w'.octets.size := by
    refine ⟨hname.reads (.trans (.append_octets ..) hv), holdsAt_append hv, hsize, ?_, ?_, ?_, rfl⟩
    · rw [← buf.size_toArray]
      exact hc.size_le
    · change RecordData.read (.ofCode r.data.type.code) _ _ = _
      rw [RecordData.ofCode_type]
      exact hcut
    · exact (RecordClass.ofCode_code_eq r.recordClass).symm
  exact hread.read

end Record

end Dns

end DomainLocator

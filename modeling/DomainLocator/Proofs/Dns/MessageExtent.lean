import DomainLocator.Proofs.Dns.MessageDecoding
import DomainLocator.Proofs.Dns.MessageFaults

/-! How far the reading of a message goes, and that whatever comes after is of no account. Names may lead anywhere in
the message, but past the end of nothing that has been read. -/

namespace DomainLocator

def Octets.numberAt (bs : Octets) (pos : Nat) : Nat :=
  ofBigEndian ((bs.drop pos).take 2)

lemma HoldsAt.numberAt {bs : Array UInt8} {pos : Nat} {n : UInt16} (h : HoldsAt bs pos (Octets.bigEndian 2 n.toNat)) :
    Octets.numberAt bs.toList pos = n.toNat := by
  have htake := List.prefix_iff_eq_take.mp h
  rw [Octets.length_bigEndian] at htake
  rw [Octets.numberAt, ← htake, Octets.ofBigEndian_bigEndian]
  exact Nat.mod_eq_of_lt n.toNat_lt

namespace Buffer

variable {buf buf' : Buffer} {pos past width stop : Nat} {xs : Octets}

lemma field_eq_ok (hw : 0 < width) (h : buf.field width pos = .ok (xs, past)) :
    xs.length = width ∧ HoldsAt buf.toArray pos xs ∧ past = pos + width := by
  rw [field] at h
  split at h
  · cases h
    exact ⟨((slice?_eq_some_iff hw).mp ‹_›).1, ((slice?_eq_some_iff hw).mp ‹_›).2, rfl⟩
  · contradiction

lemma number_of_field (hw : 0 < width) (h : buf.field width pos = .ok (xs, past)) :
    HoldsAt buf.toArray pos (Octets.bigEndian width (Octets.ofBigEndian xs)) ∧
      Octets.ofBigEndian xs < Octets.capacity width ∧ past = pos + width := by
  obtain ⟨rfl, hh, hpast⟩ := field_eq_ok hw h
  rw [Octets.bigEndian_ofBigEndian]
  exact ⟨hh, Octets.ofBigEndian_lt xs, hpast⟩

lemma word16_eq_ok {n : UInt16} (h : buf.word16 pos = .ok (n, past)) :
    HoldsAt buf.toArray pos (Octets.bigEndian 2 n.toNat) ∧ past = pos + 2 := by
  obtain ⟨⟨xs, past⟩, hf, h⟩ := Dns.bind_eq_ok_iff.mp h
  obtain ⟨hh, hlt, rfl⟩ := number_of_field (by decide) hf
  cases h
  rw [UInt16.toNat_ofNat_of_lt' hlt]
  exact ⟨hh, rfl⟩

lemma word32_eq_ok {n : UInt32} (h : buf.word32 pos = .ok (n, past)) :
    HoldsAt buf.toArray pos (Octets.bigEndian 4 n.toNat) ∧ past = pos + 4 := by
  obtain ⟨⟨xs, past⟩, hf, h⟩ := Dns.bind_eq_ok_iff.mp h
  obtain ⟨hh, hlt, rfl⟩ := number_of_field (by decide) hf
  cases h
  rw [UInt32.toNat_ofNat_of_lt' hlt]
  exact ⟨hh, rfl⟩

lemma continues_of_prefix {bs cs : Octets} (h : bs <+: cs) : Continues (ofOctets bs).toArray (ofOctets cs).toArray := by
  simpa [Continues, ofOctets] using h

lemma cut_continues (buf : Buffer) (stop : Nat) : Continues (buf.cut stop).toArray buf.toArray := by
  rw [toArray_cut, Continues, Array.toList_extract, List.extract_eq_take_drop, List.drop_zero]
  exact List.take_prefix ..

lemma cut_continues_cut (hc : Continues buf.toArray buf'.toArray) (stop : Nat) :
    Continues (buf.cut stop).toArray (buf'.cut stop).toArray := by
  simp only [toArray_cut, Continues, Array.toList_extract, List.extract_eq_take_drop, List.drop_zero]
  exact List.IsPrefix.take hc _

end Buffer

namespace Dns

def Name.ReadIn (n : Name) (bs : Array UInt8) : Prop :=
  ∃ pos labels past, Spells bs pos labels past ∧ n = ⟨labels.map Text.Utf8.decodeLossy⟩

lemma Name.ReadIn.mono {n : Name} {bs cs : Array UInt8} (hc : Continues bs cs) (h : n.ReadIn bs) : n.ReadIn cs := by
  obtain ⟨pos, labels, past, hs, hn⟩ := h
  exact ⟨pos, labels, past, hs.mono hc, hn⟩

def Persists {α : Type} (first again : Except WireError α) (post : α → Prop) : Prop :=
  ∀ a, first = .ok a → post a ∧ again = .ok a

namespace Persists

variable {α β : Type} {buf buf' : Buffer} {pos : Nat}

lemma pure {a : α} {post : α → Prop} (h : post a) : Persists (.ok a) (.ok a) post := by
  intro b hb
  cases hb
  exact ⟨h, rfl⟩

lemma stop {e : WireError} {again : Except WireError α} {post : α → Prop} : Persists (.error e) again post :=
  fun _ => nofun

lemma bind {first again : Except WireError α} {next next' : α → Except WireError β} {post : α → Prop} {post' : β → Prop}
    (h : Persists first again post) (hn : ∀ a, post a → Persists (next a) (next' a) post') :
    Persists (first >>= next) (again >>= next') post' := by
  intro b hb
  obtain ⟨a, ha, hb⟩ := bind_eq_ok_iff.mp hb
  obtain ⟨hp, hagain⟩ := h a ha
  obtain ⟨hp', hb'⟩ := hn a hp b hb
  exact ⟨hp', bind_eq_ok_iff.mpr ⟨a, hagain, hb'⟩⟩

lemma many (good : α → Prop) {read again : Nat → Except WireError (α × Nat)} {least size count : Nat}
    (h : ∀ pos, Persists (read pos) (again pos) fun found => good found.1 ∧ pos + least ≤ found.2 ∧ found.2 ≤ size)
    (hpos : pos ≤ size) : Persists (Buffer.many read count pos) (Buffer.many again count pos) fun found =>
      found.1.length = count ∧ (∀ a ∈ found.1, good a) ∧ pos + least * count ≤ found.2 ∧ found.2 ≤ size := by
  induction count generalizing pos with
  | zero => exact .pure ⟨rfl, by simp, Nat.le_refl _, hpos⟩
  | succ count ih =>
    rw [Buffer.many_succ, Buffer.many_succ]
    refine .bind (h pos) ?_
    rintro ⟨a, next⟩ ⟨hgood, hnext, hsize⟩
    refine .bind (ih hsize) ?_
    rintro ⟨as, past⟩ ⟨hlength, hall, hpast, hsize⟩
    refine .pure ⟨congrArg (· + 1) hlength, List.forall_mem_cons.mpr ⟨hgood, hall⟩, ?_, hsize⟩
    dsimp only at hnext hpast ⊢
    rw [Nat.mul_succ]
    omega

variable (hc : Continues buf.toArray buf'.toArray)
include hc

lemma field {width : Nat} (hw : 0 < width) : Persists (buf.field width pos) (buf'.field width pos) fun found =>
    found.2 = pos + width ∧ pos + width ≤ buf.size := by
  rintro ⟨xs, past⟩ h
  obtain ⟨hl, hh, rfl⟩ := Buffer.field_eq_ok hw h
  have hsize := hh.size_le (List.length_pos_iff.mp (hl ▸ hw))
  rw [hl, Buffer.size_toArray] at hsize
  exact ⟨⟨rfl, hsize⟩, Buffer.field_of_holdsAt hw hl (hh.mono hc)⟩

lemma word16 : Persists (buf.word16 pos) (buf'.word16 pos) fun found =>
    Octets.numberAt buf.toArray.toList pos = found.1.toNat ∧ found.2 = pos + 2 ∧ pos + 2 ≤ buf.size := by
  rintro ⟨n, past⟩ h
  obtain ⟨hh, rfl⟩ := Buffer.word16_eq_ok h
  have hsize := hh.size_le (List.length_pos_iff.mp (by simp))
  rw [Octets.length_bigEndian, Buffer.size_toArray] at hsize
  exact ⟨⟨hh.numberAt, rfl, hsize⟩, Buffer.word16_of_holdsAt (hh.mono hc)⟩

lemma word32 : Persists (buf.word32 pos) (buf'.word32 pos) fun found =>
    found.2 = pos + 4 ∧ pos + 4 ≤ buf.size := by
  rintro ⟨n, past⟩ h
  obtain ⟨hh, rfl⟩ := Buffer.word32_eq_ok h
  have hsize := hh.size_le (List.length_pos_iff.mp (by simp))
  rw [Octets.length_bigEndian, Buffer.size_toArray] at hsize
  exact ⟨⟨rfl, hsize⟩, Buffer.word32_of_holdsAt (hh.mono hc)⟩

lemma name : Persists (Name.decode buf pos) (Name.decode buf' pos) fun found =>
    found.1.ReadIn buf.toArray ∧ pos < found.2 ∧ found.2 ≤ buf.size := by
  rintro ⟨n, past⟩ h
  obtain ⟨labels, hs, rfl⟩ := Name.decode_spells h
  exact ⟨⟨⟨pos, labels, past, hs, rfl⟩, hs.lt_past, buf.size_toArray ▸ hs.past_le_size⟩,
    Name.decode_of_spells (hs.mono hc)⟩

end Persists

variable {buf buf' : Buffer} {pos : Nat}

lemma Soa.read_persists (hc : Continues buf.toArray buf'.toArray) :
    Persists (Soa.read buf pos) (Soa.read buf' pos) fun s =>
      (s.primary.ReadIn buf.toArray ∧ s.mailbox.ReadIn buf.toArray) ∧ pos + 22 ≤ buf.size := by
  refine .bind (.name hc) ?_
  rintro ⟨primary, _⟩ ⟨hprimary, hlt, -⟩
  refine .bind (.name hc) ?_
  rintro ⟨mailbox, _⟩ ⟨hmailbox, hlt', -⟩
  refine .bind (.word32 hc) ?_
  rintro ⟨serial, _⟩ ⟨rfl, -⟩
  refine .bind (.word32 hc) ?_
  rintro ⟨refresh, _⟩ ⟨rfl, -⟩
  refine .bind (.word32 hc) ?_
  rintro ⟨retry, _⟩ ⟨rfl, -⟩
  refine .bind (.word32 hc) ?_
  rintro ⟨expire, _⟩ ⟨rfl, -⟩
  refine .bind (.word32 hc) ?_
  rintro ⟨minimum, _⟩ ⟨rfl, hsize⟩
  refine .pure ⟨⟨hprimary, hmailbox⟩, ?_⟩
  dsimp only at hlt hlt' hsize
  omega

lemma Srv.read_persists (hc : Continues buf.toArray buf'.toArray) :
    Persists (Srv.read buf pos) (Srv.read buf' pos) fun s =>
      s.target.ReadIn buf.toArray ∧ pos + 7 ≤ buf.size := by
  refine .bind (.word16 hc) ?_
  rintro ⟨priority, _⟩ ⟨-, rfl, -⟩
  refine .bind (.word16 hc) ?_
  rintro ⟨weight, _⟩ ⟨-, rfl, -⟩
  refine .bind (.word16 hc) ?_
  rintro ⟨port, _⟩ ⟨-, rfl, -⟩
  refine .bind (.name hc) ?_
  rintro ⟨target, past⟩ ⟨htarget, hlt, hsize⟩
  refine .pure ⟨htarget, ?_⟩
  dsimp only at hlt hsize
  omega

lemma RecordData.read_persists (hc : Continues buf.toArray buf'.toArray) (type : RecordType) :
    Persists (RecordData.read type buf pos) (RecordData.read type buf' pos) fun d =>
      (∀ n ∈ d.names, n.ReadIn buf.toArray) ∧ pos + 4 ≤ buf.size := by
  cases type with
  | a =>
    refine .bind (.field hc (by decide)) ?_
    rintro ⟨octets, _⟩ ⟨-, hsize⟩
    exact .pure ⟨by simp [names], hsize⟩
  | aaaa =>
    refine .bind (.field hc (by decide)) ?_
    rintro ⟨octets, _⟩ ⟨-, hsize⟩
    exact .pure ⟨by simp [names], by omega⟩
  | soa =>
    refine .bind (Soa.read_persists hc) ?_
    rintro s ⟨⟨hprimary, hmailbox⟩, hsize⟩
    exact .pure ⟨by simp [names, hprimary, hmailbox], by omega⟩
  | srv =>
    refine .bind (Srv.read_persists hc) ?_
    rintro s ⟨htarget, hsize⟩
    exact .pure ⟨by simp [names, htarget], by omega⟩
  | _ => exact .stop

lemma Question.read_persists (hc : Continues buf.toArray buf'.toArray) :
    Persists (Question.read buf pos) (Question.read buf' pos) fun found =>
      found.1.name.ReadIn buf.toArray ∧ pos + 5 ≤ found.2 ∧ found.2 ≤ buf.size := by
  refine .bind (.name hc) ?_
  rintro ⟨name, _⟩ ⟨hname, hlt, -⟩
  refine .bind (.word16 hc) ?_
  rintro ⟨type, _⟩ ⟨-, rfl, -⟩
  refine .bind (.word16 hc) ?_
  rintro ⟨recordClass, _⟩ ⟨-, rfl, hsize⟩
  refine .pure ⟨hname, ?_, hsize⟩
  dsimp only at hlt ⊢
  omega

def Record.NamedIn (r : Record) (bs : Array UInt8) : Prop :=
  ∀ n ∈ r.names, n.ReadIn bs

lemma Record.read_persists (hc : Continues buf.toArray buf'.toArray) :
    Persists (Record.read buf pos) (Record.read buf' pos) fun found =>
      found.1.NamedIn buf.toArray ∧ pos + 15 ≤ found.2 ∧ found.2 ≤ buf.size := by
  have hsizes := hc.size_le
  rw [buf.size_toArray, buf'.size_toArray] at hsizes
  refine .bind (.name hc) ?_
  rintro ⟨name, _⟩ ⟨hname, hlt, -⟩
  refine .bind (.word16 hc) ?_
  rintro ⟨type, _⟩ ⟨-, rfl, -⟩
  refine .bind (.word16 hc) ?_
  rintro ⟨recordClass, _⟩ ⟨-, rfl, -⟩
  refine .bind (.word32 hc) ?_
  rintro ⟨ttl, _⟩ ⟨rfl, -⟩
  refine .bind (.word16 hc) ?_
  rintro ⟨size, _⟩ ⟨-, rfl, -⟩
  dsimp only
  split
  · exact .stop
  rename_i hstop
  rw [if_neg (by omega)]
  -- What is left up to the end of the data is the same in the longer message.
  refine .bind (RecordData.read_persists (Buffer.cut_continues_cut hc _) _) ?_
  rintro data ⟨hnames, hsize⟩
  refine .pure ⟨?_, ?_, Nat.le_of_not_lt hstop⟩
  · exact List.forall_mem_cons.mpr ⟨hname, fun n hn => (hnames n hn).mono (buf.cut_continues _)⟩
  · have hcut := Nat.le_trans hsize (Nat.min_le_left ..)
    dsimp only at hlt ⊢
    omega

namespace Message

structure Counted (m : Message) (bs : Octets) : Prop where
  questions : m.questions.length = bs.numberAt 4
  answers : m.answers.length = bs.numberAt 6
  nameServers : m.nameServers.length = bs.numberAt 8
  additional : m.additional.length = bs.numberAt 10

structure StandsIn (m : Message) (past : Nat) (bs : Array UInt8) : Prop where
  counted : m.Counted bs.toList
  names : ∀ n ∈ m.names, n.ReadIn bs
  least : 12 + 5 * m.questions.length + 15 * m.records.length ≤ past
  past_le : past ≤ bs.size

lemma read_persists (hc : Continues buf.toArray buf'.toArray) :
    Persists (read buf) (read buf') fun found => found.1.StandsIn found.2 buf.toArray := by
  refine .bind (.word16 hc) ?_
  rintro ⟨id, _⟩ ⟨-, rfl, -⟩
  refine .bind (.word16 hc) ?_
  rintro ⟨flags, _⟩ ⟨-, rfl, -⟩
  refine .bind (.word16 hc) ?_
  rintro ⟨questionCount, _⟩ ⟨hq, rfl, -⟩
  refine .bind (.word16 hc) ?_
  rintro ⟨answerCount, _⟩ ⟨ha, rfl, -⟩
  refine .bind (.word16 hc) ?_
  rintro ⟨nameServerCount, _⟩ ⟨hn, rfl, -⟩
  refine .bind (.word16 hc) ?_
  rintro ⟨additionalCount, _⟩ ⟨hr, rfl, hheader⟩
  refine .bind (.many (·.name.ReadIn buf.toArray) (fun _ => Question.read_persists hc) hheader) ?_
  rintro ⟨questions, p₁⟩ ⟨hquestionCount, hquestions, hp₁, hsize⟩
  refine .bind (.many (·.NamedIn buf.toArray) (fun _ => Record.read_persists hc) hsize) ?_
  rintro ⟨answers, p₂⟩ ⟨hanswerCount, hanswers, hp₂, hsize⟩
  refine .bind (.many (·.NamedIn buf.toArray) (fun _ => Record.read_persists hc) hsize) ?_
  rintro ⟨nameServers, p₃⟩ ⟨hnameServerCount, hnameServers, hp₃, hsize⟩
  refine .bind (.many (·.NamedIn buf.toArray) (fun _ => Record.read_persists hc) hsize) ?_
  rintro ⟨additional, p₄⟩ ⟨hadditionalCount, hadditional, hp₄, hsize⟩
  refine .pure ⟨⟨hquestionCount.trans hq.symm, hanswerCount.trans ha.symm, hnameServerCount.trans hn.symm,
    hadditionalCount.trans hr.symm⟩, ?_, ?_, buf.size_toArray ▸ hsize⟩
  · simp only [names, records, List.forall_mem_append, List.forall_mem_map, List.forall_mem_flatMap]
    exact ⟨hquestions, ⟨hanswers, hnameServers⟩, hadditional⟩
  · dsimp only at hquestionCount hanswerCount hnameServerCount hadditionalCount hp₁ hp₂ hp₃ hp₄ ⊢
    simp only [records, List.length_append]
    omega

lemma read_of_ofOctets {bs : Octets} {m : Message} (h : ofOctets bs = .ok m) :
    ∃ past, read (Buffer.ofOctets bs) = .ok (m, past) := by
  rw [ofOctets] at h
  cases hr : read (Buffer.ofOctets bs) with
  | error e =>
    rw [hr] at h
    contradiction
  | ok found =>
    rw [hr] at h
    cases h
    exact ⟨found.2, rfl⟩

lemma ofOctets_of_read {bs : Octets} {m : Message} {past : Nat} (h : read (Buffer.ofOctets bs) = .ok (m, past)) :
    ofOctets bs = .ok m := by
  rw [ofOctets, h]
  rfl

theorem read_extent {bs : Octets} {m : Message} (h : ofOctets bs = .ok m) :
    ∃ past, read (Buffer.ofOctets bs) = .ok (m, past) ∧ m.Counted bs ∧
      12 + 5 * m.questions.length + 15 * m.records.length ≤ past ∧ past ≤ bs.length ∧
      (∀ more, ofOctets (bs ++ more) = .ok m) ∧
      ∀ short, short <+: bs → short.length < past → ∃ e, ofOctets short = .error e := by
  obtain ⟨past, hread⟩ := read_of_ofOctets h
  have hstands := (read_persists (.refl _) _ hread).1
  have hcounted := hstands.counted
  have hpast := hstands.past_le
  rw [Buffer.size_toArray, Buffer.size_ofOctets] at hpast
  simp only [Buffer.ofOctets, Buffer.toArray_ofArray] at hcounted
  refine ⟨past, hread, hcounted, hstands.least, hpast, ?_, ?_⟩
  · intro more
    exact ofOctets_of_read (read_persists (Buffer.continues_of_prefix (List.prefix_append bs more)) _ hread).2
  · intro short hshort hlt
    cases hs : ofOctets short with
    | error e => exact ⟨e, rfl⟩
    | ok m' =>
      -- It would end in the same place when read in all of the octets.
      obtain ⟨past', hread'⟩ := read_of_ofOctets hs
      obtain ⟨hstands', hagain⟩ := read_persists (Buffer.continues_of_prefix hshort) _ hread'
      rw [hread] at hagain
      cases hagain
      have hpast' := hstands'.past_le
      rw [Buffer.size_toArray, Buffer.size_ofOctets] at hpast'
      exact (Nat.not_lt_of_le hpast' hlt).elim

theorem read_extent_delegation : ofOctets delegationOctets = .ok delegation.canonical ∧
    delegation.canonical.Counted delegationOctets ∧
    ofOctets (delegationOctets ++ [0, 1]) = .ok delegation.canonical ∧
    ∃ e, ofOctets delegationOctets.dropLast = .error e := by
  have hw : delegation.toOctets = .ok delegationOctets := by cbv
  have hwhole := read_of_toOctets hw
  have h := ofOctets_of_read hwhole
  obtain ⟨past, hread, hcounted, -, -, hmore, hshort⟩ := read_extent h
  have hpast : delegationOctets.length = past := (Prod.mk.inj (Except.ok.inj (hwhole.symm.trans hread))).2
  subst hpast
  exact ⟨h, hcounted, hmore [0, 1], hshort _ (List.dropLast_prefix _) (by decide)⟩

end Message

end Dns

end DomainLocator

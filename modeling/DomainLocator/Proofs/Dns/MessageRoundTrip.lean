import DomainLocator.Dns.Message
import DomainLocator.Proofs.Dns.RecordRoundTrip

namespace DomainLocator.Dns

variable {w w' : Writer}

lemma RoundTrip.manyOnto {α β : Type} {write : α → Writer → Except Interrupted Writer}
    {read : Buffer → Nat → Except WireError (β × Nat)} {result : α → β}
    (h : ∀ x w w', w.Faithful → write x w = .ok w' → RoundTrip read w w' (result x, w'.octets.size))
    {values : List α} (done : List β) (hw : w.Faithful) (hall : w.all write values = .ok w') :
    RoundTrip (fun buf => Buffer.manyOnto (read buf) done values.length) w w'
      (done.reverse ++ values.map result, w'.octets.size) := by
  induction values generalizing w done with
  | nil =>
    cases hall
    exact ⟨hw, .refl _, fun _ => by simp [Buffer.manyOnto]⟩
  | cons x values ih =>
    obtain ⟨v, hx, hall⟩ := bind_eq_ok_iff.mp hall
    have hfirst := h x w v hw hx
    have hrest := ih (result x :: done) hfirst.faithful hall
    refine ⟨hrest.faithful, .trans hfirst.continues hrest.continues, ?_⟩
    intro buf hc
    simp only [List.length_cons, Buffer.manyOnto, hfirst.reads (.trans hrest.continues hc), hrest.reads hc]
    simp

lemma RoundTrip.many {α β : Type} {write : α → Writer → Except Interrupted Writer}
    {read : Buffer → Nat → Except WireError (β × Nat)} {result : α → β}
    (h : ∀ x w w', w.Faithful → write x w = .ok w' → RoundTrip read w w' (result x, w'.octets.size))
    {values : List α} (hw : w.Faithful) (hall : w.all write values = .ok w') :
    RoundTrip (fun buf => Buffer.many (read buf) values.length) w w' (values.map result, w'.octets.size) :=
  .manyOnto h [] hw hall

lemma Question.roundTrip_all {questions : List Question} (hw : w.Faithful)
    (h : w.all Question.write questions = .ok w') : RoundTrip (fun buf => Buffer.many (Question.read buf)
      questions.length) w w' (questions.map Question.canonical, w'.octets.size) := by
  refine .many ?_ hw h
  intro q v v' hv hq
  exact Question.roundTrip hv hq

lemma Record.roundTrip_all {records : List Record} (hw : w.Faithful) (h : w.all Record.write records = .ok w') :
    RoundTrip (fun buf => Buffer.many (Record.read buf) records.length) w w'
      (records.map Record.canonical, w'.octets.size) := by
  refine .many ?_ hw h
  intro r v v' hv hr
  exact Record.roundTrip hv hr

namespace Message

def canonical (m : Message) : Message :=
  { m with
    questions := m.questions.map Question.canonical
    answers := m.answers.map Record.canonical
    nameServers := m.nameServers.map Record.canonical
    additional := m.additional.map Record.canonical }

def header (m : Message) : Octets :=
  Octets.bigEndian 2 m.id.toUInt16.toNat ++ (Octets.bigEndian 2 m.flags.bits.toNat ++
    (Octets.bigEndian 2 m.questions.length ++ (Octets.bigEndian 2 m.answers.length ++
      (Octets.bigEndian 2 m.nameServers.length ++ Octets.bigEndian 2 m.additional.length))))

structure Countable (m : Message) : Prop where
  questions : m.questions.length ≤ 0xffff
  answers : m.answers.length ≤ 0xffff
  nameServers : m.nameServers.length ≤ 0xffff
  additional : m.additional.length ≤ 0xffff

lemma write_eq_ok {m : Message} (h : m.write w = .ok w') : m.Countable ∧ ∃ t u v,
    (w.append m.header).all Question.write m.questions = .ok t ∧ t.all Record.write m.answers = .ok u ∧
      u.all Record.write m.nameServers = .ok v ∧ v.all Record.write m.additional = .ok w' := by
  obtain ⟨_, hcount, h⟩ := bind_eq_ok_iff.mp h
  obtain ⟨hquestions, rfl⟩ := Writer.count_eq_ok hcount
  obtain ⟨_, hcount, h⟩ := bind_eq_ok_iff.mp h
  obtain ⟨hanswers, rfl⟩ := Writer.count_eq_ok hcount
  obtain ⟨_, hcount, h⟩ := bind_eq_ok_iff.mp h
  obtain ⟨hnameServers, rfl⟩ := Writer.count_eq_ok hcount
  obtain ⟨_, hcount, h⟩ := bind_eq_ok_iff.mp h
  obtain ⟨hadditional, rfl⟩ := Writer.count_eq_ok hcount
  obtain ⟨t, ht, h⟩ := bind_eq_ok_iff.mp h
  rw [records, Writer.all, List.foldlM_append, List.foldlM_append] at h
  obtain ⟨v, hv, h⟩ := bind_eq_ok_iff.mp h
  obtain ⟨u, hu, hv⟩ := bind_eq_ok_iff.mp hv
  refine ⟨⟨hquestions, hanswers, hnameServers, hadditional⟩, t, u, v, ?_, hu, hv, h⟩
  rw [← ht]
  simp only [header, Writer.word16_eq, Writer.append_append, List.append_assoc]

lemma word16_count {buf : Buffer} {n pos : Nat} (hn : n ≤ 0xffff) (h : HoldsAt buf.toArray pos (Octets.bigEndian 2 n)) :
    buf.word16 pos = .ok (UInt16.ofNat n, pos + 2) := by
  rw [← Writer.toNat_ofNat_count hn] at h
  exact Buffer.word16_of_holdsAt h

lemma read_of_write {m : Message} {buf : Buffer} (h : m.write {} = .ok w) (hc : Continues w.octets buf.toArray) :
    read buf = .ok (m.canonical, w.octets.size) := by
  obtain ⟨hcount, t, u, v, ht, hu, hv, hw⟩ := write_eq_ok h
  have hquestions := Question.roundTrip_all (Writer.faithful_empty.append m.header) ht
  have hanswers := Record.roundTrip_all hquestions.faithful hu
  have hnameServers := Record.roundTrip_all hanswers.faithful hv
  have hadditional := Record.roundTrip_all hnameServers.faithful hw
  have hcv := Continues.trans hadditional.continues hc
  have hcu := Continues.trans hnameServers.continues hcv
  have hct := Continues.trans hanswers.continues hcu
  have hfields := holdsAt_append (.trans hquestions.continues hct)
  simp only [header, HoldsAt.append_iff, Octets.length_bigEndian, Array.size_empty] at hfields
  obtain ⟨hid, hflags, hq, ha, hn, hr⟩ := hfields
  have hread := hquestions.reads hct
  simp only [Writer.octets_append, size_append_octets, header, List.length_append, Octets.length_bigEndian,
    Array.size_empty] at hread
  rw [read, Buffer.word16_of_holdsAt hid]
  simp only [bind, Except.bind, pure, Except.pure, Buffer.word16_of_holdsAt hflags, word16_count hcount.questions hq,
    word16_count hcount.answers ha, word16_count hcount.nameServers hn, word16_count hcount.additional hr]
  simp only [Writer.toNat_ofNat_count hcount.questions, Writer.toNat_ofNat_count hcount.answers,
    Writer.toNat_ofNat_count hcount.nameServers, Writer.toNat_ofNat_count hcount.additional]
  simp only [Nat.add_assoc, hread, hanswers.reads hcu, hnameServers.reads hcv, hadditional.reads hc]
  rfl

theorem ofOctets_toOctets {m : Message} {bs : Octets} (h : m.toOctets = .ok bs) : ofOctets bs = .ok m.canonical := by
  rw [toOctets] at h
  split at h
  · rename_i w hw
    cases h
    rw [ofOctets, read_of_write hw]
    · rfl
    · simp [Buffer.ofOctets, Continues]
  · contradiction

def delegation : Message where
  id := -2
  flags := .response
  questions := [⟨⟨["a", "b", ""]⟩, .other 33, .internet⟩]
  answers := [{ name := ⟨["a", "b", ""]⟩, data := .srv ⟨0, 100, 88, ⟨["c", "b"]⟩⟩, ttl := -1 }]
  nameServers := [{ name := ⟨["b", ""]⟩, data := .soa ⟨⟨["c", "b"]⟩, ⟨["d", "b", ""]⟩, 1, 2, 3, 4, 5⟩ }]
  additional := [{ name := ⟨["c", "b"]⟩, data := .a ⟨0xc0a83809⟩, ttl := 600 }]

def delegationOctets : Octets := [
  255, 254, 133, 128, 0, 1, 0, 1, 0, 1, 0, 1, 1, 97, 1, 98, 0, 0, 33, 0, 1, 192, 12, 0, 33, 0, 1, 255, 255, 255,
  255, 0, 11, 0, 0, 0, 100, 0, 88, 1, 99, 1, 98, 0, 192, 14, 0, 6, 0, 1, 0, 0, 0, 0, 0, 26, 192, 39, 1, 100, 192,
  14, 0, 0, 0, 1, 0, 0, 0, 2, 0, 0, 0, 3, 0, 0, 0, 4, 0, 0, 0, 5, 192, 39, 0, 1, 0, 1, 0, 0, 2, 88, 0, 4, 192,
  168, 56, 9]

theorem ofOctets_delegation :
    delegation.toOctets = .ok delegationOctets ∧ ofOctets delegationOctets = .ok delegation.canonical := by
  have h : delegation.toOctets = .ok delegationOctets := by cbv
  exact ⟨h, ofOctets_toOctets h⟩

end Message

end DomainLocator.Dns

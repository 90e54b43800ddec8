import DomainLocator.Proofs.Zone.Datagram

/-! A record that was registered is the answer to the question for its name. The name is read from the wire without
the full stop that may stand at its end, so what was registered with such a stop is not found. -/

namespace DomainLocator

namespace Dns

def Message.asking (id : Int16) (flags : Flags) (q : Question) : Message :=
  { id, flags, questions := [q] }

lemma Message.countable_asking (id : Int16) (flags : Flags) (q : Question) : (asking id flags q).Countable :=
  ⟨by simp [asking], by simp [asking], by simp [asking], by simp [asking]⟩

lemma Message.exists_asking {q : Question} (id : Int16) (flags : Flags) (hq : q.name.Encodable) :
    ∃ bs, (asking id flags q).toOctets = .ok bs := by
  apply exists_toOctets (countable_asking id flags q)
  · simpa [asking] using hq
  · simp [asking, records]

end Dns

namespace Zone

open Dns (Name Question Record RecordClass Message Flags Srv)

variable {z : Zone} {c : Registration} {q : Question} {r : Record} {realm : String} {before history : List Registration}
  {datagram : Octets} {request : Message}

namespace Registration

def question (c : Registration) (recordClass : RecordClass) : Question :=
  ⟨.ofDotted c.name, c.record.type, recordClass⟩

lemma serves_own_question (c : Registration) (recordClass : RecordClass) : c.Serves (c.question recordClass) :=
  ⟨rfl, congrArg Text.lowerCase (Name.dotted_ofDotted c.name).symm⟩

lemma serves_question (hn : c.name.toList.getLast? ≠ some '.') (recordClass : RecordClass) :
    c.Serves (c.question recordClass).canonical := by
  have htype : c.record.type.canonical = c.record.type := by cases c <;> rfl
  have hkey : (Name.ofDotted c.name).canonical.key = Text.lowerCase c.name := by
    rw [Name.key, Name.dotted_canonical_ofDotted, Text.dropStop, if_neg hn]
  exact ⟨htype.symm, hkey.symm⟩

end Registration

lemma answer?_of_register (hc : ((ofHistory realm before).register c).2 = .ok ()) (hs : c.Serves q)
    (after : List Registration) : (ofHistory realm (before ++ c :: after)).answer? q = some c.record := by
  have hbefore := (register_eq_ok_iff hs).mp hc
  rw [answer?_ofHistory, firstServing, Option.map_eq_none_iff] at hbefore
  rw [answer?_ofHistory, firstServing, List.find?_append, hbefore, Option.none_or,
    List.find?_cons_of_pos (by simpa using hs), Option.map_some]

lemma respond_asking (h : z.answer? q = some r) (id : Int16) (flags : Flags) :
    z.respond (.asking id flags q) = { Message.asking id ⟨0x8580⟩ q with answers := [r] } := by
  rw [respond_eq]
  simp [Message.asking, answers, h]

lemma answerDatagram_readable (hd : Message.ofOctets datagram = .ok request)
    (hq : ∀ q ∈ request.questions, q.name.Encodable)
    (hr : ∀ r ∈ ((ofHistory realm history).respond request).records, r.Writable) :
    ∃ reply, (ofHistory realm history).answerDatagram datagram = .ok reply ∧
      Message.ofOctets reply = .ok ((ofHistory realm history).respond request).withoutRoots := by
  have hm := (Message.ofOctets_yields datagram).ok request hd
  obtain ⟨reply, hreply⟩ : ∃ bs, ((ofHistory realm history).respond request).toOctets = .ok bs := by
    apply Message.exists_toOctets (countable_respond _ hm.countable) ?_ hr
    rwa [questions_respond]
  refine ⟨reply, ?_, ?_⟩
  · rw [answerDatagram, hd]
    exact congrArg (Except.mapError ServiceError.wire) hreply
  · rw [(Message.toOctets_eq_ok hreply).2, canonical_respond hm]

lemma answerDatagram_asking (id : Int16) (flags : Flags) (hq : q.name.Encodable)
    (hr : ∀ r ∈ ((ofHistory realm history).respond (.asking id flags q.canonical)).records, r.Writable) :
    ∃ datagram reply, (Message.asking id flags q).toOctets = .ok datagram ∧
      (ofHistory realm history).answerDatagram datagram = .ok reply ∧ Message.ofOctets reply =
        .ok ((ofHistory realm history).respond (.asking id flags q.canonical)).withoutRoots := by
  obtain ⟨datagram, hd⟩ := Message.exists_asking id flags hq
  have hrequest : Message.ofOctets datagram = .ok (.asking id flags q.canonical) := (Message.toOctets_eq_ok hd).2
  have hcanonical : q.canonical.name.Encodable := hq.canonical
  obtain ⟨reply, hreply, hback⟩ := answerDatagram_readable hrequest (by simpa [Message.asking] using hcanonical) hr
  exact ⟨datagram, reply, hd, hreply, hback⟩

theorem answerDatagram_registered (after : List Registration) (id : Int16) (flags : Flags) (recordClass : RecordClass)
    (hc : ((ofHistory realm before).register c).2 = .ok ()) (hw : c.record.Writable)
    (hn : c.name.toList.getLast? ≠ some '.') : ∃ datagram reply,
      (Message.asking id flags (c.question recordClass)).toOctets = .ok datagram ∧
      (ofHistory realm (before ++ c :: after)).answerDatagram datagram = .ok reply ∧
      Message.ofOctets reply = .ok { Message.asking id ⟨0x8580⟩ (c.question recordClass).canonical with
        answers := [c.record.withoutRoots] } := by
  have hname : (c.question recordClass).name.Encodable := by
    apply hw.names
    cases c <;> exact List.mem_cons_self
  have hrespond := respond_asking (answer?_of_register hc (c.serves_question hn recordClass) after) id flags
  obtain ⟨datagram, reply, hd, hreply, hback⟩ : ∃ datagram reply, _ ∧ _ ∧ _ := by
    apply answerDatagram_asking id flags hname
    rw [hrespond]
    simpa [Message.asking, Message.records] using hw
  rw [hrespond] at hback
  exact ⟨datagram, reply, hd, hreply, hback⟩

def place : Registration :=
  .service "a.b" "c.b." 88

theorem answerDatagram_place :
    ((ofHistory "b." [.host "a.b" ⟨0xc0a83809⟩]).register place).2 = .ok () ∧ place.record.Writable ∧
      place.name.toList.getLast? ≠ some '.' ∧
    ∃ datagram reply,
      (Message.asking 7 ⟨0⟩ ⟨⟨["a", "b"]⟩, .srv, .internet⟩).toOctets = .ok datagram ∧
      (ofHistory "b." [.host "a.b" ⟨0xc0a83809⟩, place, .service "A.b" "d.b" 389]).answerDatagram datagram = .ok reply ∧
      Message.ofOctets reply = .ok { Message.asking 7 ⟨0x8580⟩ ⟨⟨["a", "b"]⟩, .srv, .internet⟩ with
        answers := [{ name := ⟨["a", "b"]⟩, data := .srv ⟨0, 100, 88, ⟨["c", "b"]⟩⟩, ttl := 600 }] } := by
  have hc : ((ofHistory "b." [.host "a.b" ⟨0xc0a83809⟩]).register place).2 = .ok () := by
    rw [register_eq_ok_iff (place.serves_own_question .internet), answer?_ofHistory]
    decide +kernel
  have hw : place.record.Writable := by decide +kernel
  have hn : place.name.toList.getLast? ≠ some '.' := by decide
  have hq : place.question .internet = ⟨⟨["a", "b"]⟩, .srv, .internet⟩ := by decide +kernel
  have hr : place.record.withoutRoots =
      { name := ⟨["a", "b"]⟩, data := .srv ⟨0, 100, 88, ⟨["c", "b"]⟩⟩, ttl := 600 } := by decide +kernel
  have h := answerDatagram_registered [.service "A.b" "d.b" 389] 7 ⟨0⟩ .internet hc hw hn
  rw [hq, hr] at h
  exact ⟨hc, hw, hn, h⟩

lemma answerDatagram_of_long {s : Srv} (hd : Message.ofOctets datagram = .ok request)
    (hr : r ∈ (z.respond request).records) (hs : r.data = .srv s) (hl : 0xffff < r.data.literalForm.length) :
    ∃ e, z.answerDatagram datagram = .error e := by
  rw [answerDatagram, hd]
  cases h : (z.respond request).toOctets with
  | error cause => exact ⟨.wire cause, by simp [h, Except.mapError]⟩
  | ok reply =>
    obtain ⟨w, w', hw⟩ := Message.exists_write_of_toOctets h hr
    exact absurd (Record.length_srv_of_write hs hw) (Nat.not_le_of_lt hl)

def stoppedHost : Registration :=
  .host "c.b." ⟨0x01020304⟩

def farService (count : Nat) : Registration :=
  .service "a.b" (Text.Separated.join '.' (List.replicate count "x")) 88

section FarService

variable {count : Nat}

lemma ofDotted_farService (h : 0 < count) : Name.ofDotted (Text.Separated.join '.' (List.replicate count "x")) =
    ⟨List.replicate count "x"⟩ := by
  have hne : List.replicate count "x" ≠ [] := by simp [Nat.pos_iff_ne_zero.mp h]
  rw [Name.ofDotted, Text.Separated.split_join hne]
  intro text ht
  rw [List.eq_of_mem_replicate ht]
  decide

lemma dropRoot_farService (count : Nat) : Name.dropRoot (List.replicate count "x") = List.replicate count "x" :=
  Name.dropRoot_eq_self fun hm => absurd (List.eq_of_mem_replicate hm) (by decide)

lemma length_farService (h : 0 < count) : (farService count).record.data.literalForm.length = 2 * count + 7 := by
  have hx : (Name.literal "x").length = 2 := by decide
  have htarget : (Name.literalForm (List.replicate count "x")).length = count * 2 + 1 := by
    rw [Name.literalForm, dropRoot_farService, List.length_append, List.length_flatMap, List.map_replicate,
      List.sum_replicate_nat, hx]
    rfl
  simp only [farService, Registration.record, serviceRecord, Dns.RecordData.literalForm, List.length_append,
    Octets.length_bigEndian, ofDotted_farService h, htarget]
  omega

lemma encodable_farService (h : 0 < count) :
    ∀ n ∈ (farService count).record.name :: (farService count).record.data.names, n.Encodable := by
  have hname : (Name.ofDotted "a.b").Encodable := by decide +kernel
  have htarget : (Name.mk (List.replicate count "x")).Encodable := by
    intro label hl
    rw [dropRoot_farService] at hl
    rw [List.eq_of_mem_replicate hl]
    decide
  intro n hn
  rcases List.mem_cons.mp hn with rfl | hn
  · exact hname
  · rw [List.mem_singleton.mp hn, ofDotted_farService h]
    exact htarget

end FarService

theorem registered_unanswered :
    ((((ofHistory "b" []).register stoppedHost).2 = .ok () ∧ stoppedHost.record.Writable ∧ (soaRecord "b").Writable) ∧
      ∃ datagram reply, (Message.asking 7 ⟨0⟩ (stoppedHost.question .internet)).toOctets = .ok datagram ∧
        (ofHistory "b" [stoppedHost]).answerDatagram datagram = .ok reply ∧
        Message.ofOctets reply = .ok { Message.asking 7 ⟨0x8583⟩ ⟨⟨["c", "b"]⟩, .a, .internet⟩ with
          nameServers := [soaRecord "b"] }) ∧
    (((ofHistory "b" []).register (farService 32768)).2 = .ok () ∧ (soaRecord "b").Writable ∧
      ∀ n ∈ (farService 32768).record.name :: (farService 32768).record.data.names, n.Encodable) ∧
      ∃ datagram e, (Message.asking 7 ⟨0⟩ ((farService 32768).question .internet)).toOctets = .ok datagram ∧
        (ofHistory "b" [farService 32768]).answerDatagram datagram = .error e := by
  have hsoa : (soaRecord "b").Writable := by decide +kernel
  have haccepted : ∀ c, ((ofHistory "b" []).register c).2 = .ok () := by
    intro c
    exact (register_eq_ok_iff (c.serves_own_question .internet)).mpr (answer?_ofRealm "b" _)
  have hfar : ∀ n ∈ (farService 32768).record.name :: (farService 32768).record.data.names, n.Encodable :=
    encodable_farService (by decide)
  refine ⟨⟨⟨haccepted _, by decide +kernel, hsoa⟩, ?_⟩, ⟨haccepted _, hsoa, hfar⟩, ?_⟩
  · -- The question comes off the wire without the root, so its key is not that of the host.
    have hrespond : (ofHistory "b" [stoppedHost]).respond (.asking 7 ⟨0⟩ (stoppedHost.question .internet).canonical) =
        { Message.asking 7 ⟨0x8583⟩ ⟨⟨["c", "b"]⟩, .a, .internet⟩ with nameServers := [soaRecord "b"] } := by
      rw [respond_eq, soa_ofHistory, answers, answer?_ofHistory]
      decide +kernel
    obtain ⟨datagram, reply, hd, hreply, hback⟩ : ∃ datagram reply, _ ∧ _ ∧ _ := by
      apply answerDatagram_asking 7 ⟨0⟩ (q := stoppedHost.question .internet) (by decide +kernel)
      rw [hrespond]
      simpa [Message.asking, Message.records] using hsoa
    rw [hrespond] at hback
    exact ⟨datagram, reply, hd, hreply, hback⟩
  · -- Each label of the target can be written, but a record cannot hold them all.
    have hserves := (farService 32768).serves_question (by rw [farService, Registration.name]; decide) .internet
    have hname : ((farService 32768).question .internet).name.Encodable := hfar _ List.mem_cons_self
    obtain ⟨datagram, hd⟩ := Message.exists_asking 7 ⟨0⟩ hname
    have hrespond := respond_asking (answer?_of_register (haccepted (farService 32768)) hserves []) 7 ⟨0⟩
    obtain ⟨e, he⟩ : ∃ e, (ofHistory "b" [farService 32768]).answerDatagram datagram = .error e := by
      apply answerDatagram_of_long (Message.toOctets_eq_ok hd).2 (r := (farService 32768).record) ?_ rfl
      · rw [length_farService (by decide)]
        decide
      · exact (congrArg ((farService 32768).record ∈ ·.records) hrespond).mpr (by simp [Message.records])
    exact ⟨datagram, e, hd, he⟩

end Zone

end DomainLocator

import DomainLocator.Proofs.Dns.MessageDecoding
import DomainLocator.Proofs.Dns.MessageEncoding
import DomainLocator.Proofs.Dns.NameText
import DomainLocator.Proofs.Zone.History
import Mathlib

/-! A datagram gets no reply only if it cannot be read, or if a label has grown too long in reading, where each octet
that is no UTF-8 becomes a character of three octets. -/

namespace DomainLocator

namespace Dns

def Record.withoutRoots (r : Record) : Record :=
  { r with name := r.name.canonical, data := r.data.canonical }

namespace Message

variable {m : Message} {cause : WireError}

def withoutRoots (m : Message) : Message :=
  { m with
    answers := m.answers.map Record.withoutRoots
    nameServers := m.nameServers.map Record.withoutRoots
    additional := m.additional.map Record.withoutRoots }

def Overgrown (m : Message) : Prop :=
  ∃ q ∈ m.questions, ∃ label ∈ q.name.labels, 63 < (Text.Utf8.encode label).length

instance (m : Message) : Decidable m.Overgrown :=
  inferInstanceAs (Decidable (∃ q ∈ m.questions, ∃ label ∈ q.name.labels, _))

lemma Decoded.not_overgrown (h : m.Decoded) (he : ∀ q ∈ m.questions, q.name.Encodable) : ¬ m.Overgrown := by
  rintro ⟨q, hq, label, hl, hlong⟩
  rw [← Name.dropRoot_eq_self (h.questions q hq).labels] at hl
  exact Nat.not_lt_of_le (he q hq label hl).2 hlong

lemma Decoded.overgrown (h : m.Decoded) (hf : ∃ q ∈ m.questions, q.name.fault? = some cause) :
    m.Overgrown ∧ ∃ size label, cause = .labelTooLong size label := by
  obtain ⟨q, hq, hf⟩ := hf
  rcases Name.labelsFault?_eq_some hf with ⟨_, hm⟩ | ⟨label, hl, hlong, hc⟩
  · exact ((h.questions q hq).labels hm).elim
  · exact ⟨⟨q, hq, label, hl, hlong⟩, _, _, hc⟩

end Message

end Dns

namespace Zone

open Dns (Record Message Name)

variable {z : Zone} {r : Record} {request : Message} {reply datagram : Octets} {cause : WireError} {realm : String}
  {history : List Registration}

def Holds (z : Zone) (r : Record) : Prop :=
  r = z.soa ∨ ∃ name, z.hosts.find? name = some r ∨ z.services.find? name = some r

lemma holds_of_answer? {q : Dns.Question} (h : z.answer? q = some r) : z.Holds r := by
  rw [answer?_eq] at h
  split at h
  · exact .inr ⟨_, .inl h⟩
  split at h
  · exact .inr ⟨_, .inr h⟩
  · contradiction

lemma holds_of_respond (h : r ∈ (z.respond request).records) : z.Holds r := by
  rw [respond_eq, Message.records] at h
  simp only [List.mem_append, List.not_mem_nil, or_false] at h
  rcases h with ha | hs
  · obtain ⟨q, _, hq⟩ := List.mem_filterMap.mp ha
    exact holds_of_answer? hq
  · split at hs
    · exact .inl (List.mem_singleton.mp hs)
    · contradiction

lemma questions_respond (z : Zone) (request : Message) : (z.respond request).questions = request.questions := by
  rw [respond_eq]

lemma countable_respond (z : Zone) (h : request.Countable) : (z.respond request).Countable := by
  have ha : (z.answers request.questions).length ≤ request.questions.length := List.length_filterMap_le ..
  rw [respond_eq]
  refine ⟨h.questions, Nat.le_trans ha h.questions, ?_, Nat.zero_le _⟩
  dsimp only
  split <;> simp

lemma mem_of_holds (h : (ofHistory realm history).Holds r) :
    r ∈ soaRecord realm :: history.map Registration.record := by
  have hserved : ∀ q, (ofHistory realm history).answer? q = some r → r ∈ history.map Registration.record := by
    intro q hq
    rw [answer?_ofHistory] at hq
    obtain ⟨c, hc, rfl⟩ := Option.map_eq_some_iff.mp hq
    exact List.mem_map_of_mem (List.mem_of_find?_eq_some hc)
  rcases h with rfl | ⟨name, hn | hn⟩
  · rw [soa_ofHistory]
    exact List.mem_cons_self
  · exact .tail _ (hserved ⟨.ofDotted name, .a, .internet⟩ (by rw [answer?_eq, Name.dotted_ofDotted]; exact hn))
  · exact .tail _ (hserved ⟨.ofDotted name, .srv, .internet⟩ (by rw [answer?_eq, Name.dotted_ofDotted]; exact hn))

lemma canonical_of_holds (h : (ofHistory realm history).Holds r) : r.canonical = r.withoutRoots := by
  rcases List.mem_cons.mp (mem_of_holds h) with rfl | hm
  · rfl
  · obtain ⟨c, _, rfl⟩ := List.mem_map.mp hm
    cases c <;> rfl

lemma canonical_respond (hm : request.Decoded) : ((ofHistory realm history).respond request).canonical =
    ((ofHistory realm history).respond request).withoutRoots := by
  have hrecords : ∀ r ∈ ((ofHistory realm history).respond request).records, r.canonical = r.withoutRoots :=
    fun r hr => canonical_of_holds (holds_of_respond hr)
  simp only [Message.records, List.forall_mem_append] at hrecords
  have hquestions : request.questions.map Dns.Question.canonical = request.questions :=
    congrArg Message.questions hm.canonical
  simp only [Message.canonical, Message.withoutRoots, List.map_congr_left hrecords.1.1,
    List.map_congr_left hrecords.1.2, List.map_congr_left hrecords.2, questions_respond, hquestions]

inductive Served (z : Zone) (datagram : Octets) : Except ServiceError Octets → Prop
  | unreadable {cause : WireError} : Message.ofOctets datagram = .error cause → cause.OfReading →
      Served z datagram (.error (.wire cause))
  | overgrown {request : Message} (size : Nat) (label : String) : Message.ofOctets datagram = .ok request →
      request.Overgrown → Served z datagram (.error (.wire (.labelTooLong size label)))
  | answered {request : Message} {reply : Octets} : Message.ofOctets datagram = .ok request →
      ¬ request.Overgrown → request.Decoded → Message.ofOctets reply = .ok (z.respond request).canonical →
      Served z datagram (.ok reply)

lemma served_respond (hz : ∀ r, z.Holds r → r.Writable) (hd : Message.ofOctets datagram = .ok request) :
    Served z datagram ((z.respond request).toOctets.mapError .wire) := by
  have hm := (Message.ofOctets_yields datagram).ok request hd
  cases h : (z.respond request).toOctets with
  | error cause =>
    have hrecords : ∀ r ∈ (z.respond request).records, r.Writable := fun r hr => hz r (holds_of_respond hr)
    have hf := Message.toOctets_eq_error (countable_respond z hm.countable) hrecords h
    rw [questions_respond] at hf
    obtain ⟨ho, size, label, rfl⟩ := hm.overgrown hf
    exact .overgrown size label hd ho
  | ok reply =>
    obtain ⟨he, hr⟩ := Message.toOctets_eq_ok h
    rw [questions_respond] at he
    exact .answered hd (hm.not_overgrown he) hm hr

lemma served_answerDatagram (hz : ∀ r, z.Holds r → r.Writable) (datagram : Octets) :
    Served z datagram (z.answerDatagram datagram) := by
  rw [answerDatagram]
  cases hd : Message.ofOctets datagram with
  | error cause => exact .unreadable hd ((Message.ofOctets_yields datagram).error cause hd)
  | ok request => exact served_respond hz hd

theorem answerDatagram_ofHistory (hz : ∀ r, (ofHistory realm history).Holds r → r.Writable) (datagram : Octets) :
    ((∃ e, (ofHistory realm history).answerDatagram datagram = .error e) ↔
      (∃ cause, Message.ofOctets datagram = .error cause) ∨
        ∃ request, Message.ofOctets datagram = .ok request ∧ request.Overgrown) ∧
    (∀ request, Message.ofOctets datagram = .ok request → ¬ request.Overgrown →
      ∃ reply, (ofHistory realm history).answerDatagram datagram = .ok reply ∧
        Message.ofOctets reply = .ok ((ofHistory realm history).respond request).withoutRoots) ∧
    ∀ e, (ofHistory realm history).answerDatagram datagram = .error e → ∃ cause, e = .wire cause ∧
      (∀ count, cause ≠ .sectionOverflow count) ∧ ∀ name, cause ≠ .emptyLabel name := by
  have hserved := served_answerDatagram hz datagram
  generalize (ofHistory realm history).answerDatagram datagram = result at hserved ⊢
  cases hserved with
  | unreadable hd hc =>
    refine ⟨by simp [hd], by simp [hd], ?_⟩
    rintro e ⟨⟩
    refine ⟨_, rfl, ?_, ?_⟩
    · rintro count rfl
      exact hc
    · rintro name rfl
      exact hc
  | overgrown size label hd ho =>
    refine ⟨by simp [hd, ho], by simp [hd, ho], ?_⟩
    rintro e ⟨⟩
    exact ⟨_, rfl, fun _ => nofun, fun _ => nofun⟩
  | answered hd hn hm hr =>
    rw [canonical_respond hm] at hr
    refine ⟨by simp [hd, hn], ?_, fun _ => nofun⟩
    rintro _ hok -
    cases hd.symm.trans hok
    exact ⟨_, rfl, hr⟩

def smallHistory : List Registration :=
  [.host "c.b" ⟨0xc0a83809⟩, .service "a.b" "c.b." 88, .service "A.b" "d.b" 389]

def smallRequest : Message where
  id := 7
  flags := ⟨0x100⟩
  questions := [⟨⟨["a", "b"]⟩, .srv, .internet⟩]

def smallReply : Message where
  id := 7
  flags := ⟨0x8580⟩
  questions := smallRequest.questions
  answers := [{ name := ⟨["a", "b"]⟩, data := .srv ⟨0, 100, 88, ⟨["c", "b"]⟩⟩, ttl := 600 }]

def smallDatagram : Octets :=
  [0, 7, 1, 0, 0, 1, 0, 0, 0, 0, 0, 0, 1, 97, 1, 98, 0, 0, 33, 0, 1]

def growingDatagram : Octets :=
  [0, 7, 1, 0, 0, 1, 0, 0, 0, 0, 0, 0, 22] ++ List.replicate 22 0xff ++ [0, 0, 1, 0, 1]

theorem answerDatagram_smallHistory :
    (∀ r, (ofHistory "b." smallHistory).Holds r → r.Writable) ∧
      (∃ e, (ofHistory "b." smallHistory).answerDatagram growingDatagram = .error e) ∧
      ∃ reply, (ofHistory "b." smallHistory).answerDatagram smallDatagram = .ok reply ∧
        Message.ofOctets reply = .ok smallReply := by
  have hz : ∀ r, (ofHistory "b." smallHistory).Holds r → r.Writable := by
    have hall : ∀ r ∈ soaRecord "b." :: smallHistory.map Registration.record, r.Writable := by decide +kernel
    exact fun r hr => hall r (mem_of_holds hr)
  have hgrowing : Message.ofOctets growingDatagram = .ok { smallRequest with
      questions := [⟨⟨[String.ofList (List.replicate 22 '\ufffd')]⟩, .a, .internet⟩] } := by cbv
  have hsmall : Message.ofOctets smallDatagram = .ok smallRequest := by cbv
  have hreply : ((ofHistory "b." smallHistory).respond smallRequest).withoutRoots = smallReply := by
    rw [respond_eq, soa_ofHistory, answers, answer?_ofHistory]
    decide +kernel
  rw [← hreply]
  exact ⟨hz, (answerDatagram_ofHistory hz growingDatagram).1.mpr (.inr ⟨_, hgrowing, by decide +kernel⟩),
    (answerDatagram_ofHistory hz smallDatagram).2.1 _ hsmall (by decide)⟩

end Zone

end DomainLocator

import DomainLocator.Proofs.Dns.NameCase
import DomainLocator.Proofs.Zone.History
import Mathlib

/-! Whose records are in an answer. Their owner has the key of the name asked for, and is that name to a resolver if
no label asked for has a full stop in it and the letters that differ in case are those of ASCII. -/

namespace DomainLocator.Zone

open Dns (Name Question Record Message)

variable {realm : String} {history : List Registration} {q : Question} {r : Record}

lemma Registration.name_record (c : Registration) : c.record.name = .ofDotted c.name := by
  cases c <;> rfl

lemma exists_serving (h : (ofHistory realm history).answer? q = some r) :
    ∃ c ∈ history, c.Serves q ∧ c.record = r := by
  rw [answer?_ofHistory] at h
  obtain ⟨c, hc, hr⟩ := Option.map_eq_some_iff.mp h
  exact ⟨c, List.mem_of_find?_eq_some hc, by simpa using List.find?_some hc, hr⟩

theorem respond_owners (realm : String) (history : List Registration) (request : Message) :
    let z := ofHistory realm history
    (z.respond request).answers = request.questions.filterMap z.answer? ∧
    ∀ q ∈ request.questions, ∀ r, z.answer? q = some r →
      r.type = q.type ∧ r.name.key = q.name.key ∧
      (r.name.eqIgnoreCase q.name ↔ q.name.Dotless ∧ Text.eqIgnoreCase r.name.dotted q.name.dotted) ∧
      (q.name.Dotless → (∀ c ∈ r.name.dotted.toList, Text.LowerCase.IsPlain c) →
        (∀ c ∈ q.name.dotted.toList, Text.LowerCase.IsPlain c) → r.name.eqIgnoreCase q.name) := by
  intro z
  refine ⟨by rw [respond_eq, answers], ?_⟩
  intro q _ r hr
  obtain ⟨c, _, ⟨htype, hkey⟩, rfl⟩ := exists_serving hr
  have hkey : c.record.name.key = q.name.key := by rw [c.name_record, Name.key, Name.dotted_ofDotted, hkey]
  have howner : c.record.name.Dotless := by
    rw [c.name_record]
    exact Name.dotless_ofDotted c.name
  refine ⟨htype, hkey, howner.eqIgnoreCase_iff, ?_⟩
  intro hq hplain hplain'
  exact howner.eqIgnoreCase_iff.mpr ⟨hq, Text.eqIgnoreCase_of_lowerCase hplain hplain' hkey⟩

def twoHosts : List Registration :=
  [.host "DC.b" ⟨0x01020304⟩, .host "k.b" ⟨0x01020305⟩]

def spelledRequest : Message where
  questions := [⟨⟨["dc", "B"]⟩, .a, .internet⟩]

theorem respond_spelled :
    ((ofHistory "b" twoHosts).respond spelledRequest).answers = [hostRecord "DC.b" ⟨0x01020304⟩] ∧
      (hostRecord "DC.b" ⟨0x01020304⟩).name.eqIgnoreCase ⟨["dc", "B"]⟩ := by
  have hanswer : (ofHistory "b" twoHosts).answer? ⟨⟨["dc", "B"]⟩, .a, .internet⟩ =
      some (hostRecord "DC.b" ⟨0x01020304⟩) := by
    rw [answer?_ofHistory]
    decide +kernel
  have hplain : ∀ c ∈ (hostRecord "DC.b" ⟨0x01020304⟩).name.dotted.toList, Text.LowerCase.IsPlain c := by
    rw [hostRecord, Name.dotted_ofDotted]
    exact Text.LowerCase.isPlain_of_all_ascii (by decide)
  have hplain' : ∀ c ∈ (Name.mk ["dc", "B"]).dotted.toList, Text.LowerCase.IsPlain c :=
    Text.LowerCase.isPlain_of_all_ascii (by decide)
  obtain ⟨hanswers, howners⟩ := respond_owners "b" twoHosts spelledRequest
  obtain ⟨_, _, _, hsame⟩ := howners _ List.mem_cons_self _ hanswer
  refine ⟨?_, hsame (by decide) hplain hplain'⟩
  rw [hanswers, spelledRequest, List.filterMap_cons_some hanswer, List.filterMap_nil]

def dottedDatagram : Octets :=
  [0, 7, 1, 0, 0, 1, 0, 0, 0, 0, 0, 0, 4, 100, 99, 46, 98, 0, 0, 1, 0, 1]

def kelvinDatagram : Octets :=
  [0, 7, 1, 0, 0, 1, 0, 0, 0, 0, 0, 0, 3, 0xe2, 0x84, 0xaa, 1, 98, 0, 0, 1, 0, 1]

theorem answered_for_others :
    (∃ request, Message.ofOctets dottedDatagram = .ok request ∧
      ∃ r ∈ ((ofHistory "b" twoHosts).respond request).answers,
        ∀ q ∈ request.questions, r.name.eqIgnoreCase q.name = false) ∧
    ∃ request, Message.ofOctets kelvinDatagram = .ok request ∧
      ∃ r ∈ ((ofHistory "b" twoHosts).respond request).answers,
        ∀ q ∈ request.questions, r.name.eqIgnoreCase q.name = false := by
  have hdotted : Message.ofOctets dottedDatagram =
      .ok { id := 7, flags := ⟨0x100⟩, questions := [⟨⟨["dc.b"]⟩, .a, .internet⟩] } := by cbv
  have hkelvin : Message.ofOctets kelvinDatagram =
      .ok { id := 7, flags := ⟨0x100⟩, questions := [⟨⟨["\u212a", "b"]⟩, .a, .internet⟩] } := by cbv
  refine ⟨⟨_, hdotted, hostRecord "DC.b" ⟨0x01020304⟩, ?_, by decide +kernel⟩,
    ⟨_, hkelvin, hostRecord "k.b" ⟨0x01020305⟩, ?_, by decide +kernel⟩⟩
  · rw [respond_eq, answers, answer?_ofHistory]
    decide +kernel
  · rw [respond_eq, answers, answer?_ofHistory]
    decide +kernel

end DomainLocator.Zone

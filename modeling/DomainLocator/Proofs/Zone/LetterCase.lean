import DomainLocator.Proofs.Dns.NameCase
import DomainLocator.Proofs.Zone.History
import Mathlib

/-! What a zone answers to questions that differ in the case of ASCII letters. The key of the name is the same
whatever stands beside such a letter, also a sigma whose small form depends on it. -/

namespace DomainLocator

structure Dns.Question.Alike (q q' : Question) : Prop where
  type : q.type = q'.type
  name : q.name.eqIgnoreCase q'.name

namespace Zone

open Dns (Question Message)

variable {q q' : Question} {questions questions' : List Question} {request request' : Message}

lemma answer?_of_alike (z : Zone) (h : q.Alike q') : z.answer? q = z.answer? q' := by
  have hkey : Text.lowerCase q.name.dotted = Text.lowerCase q'.name.dotted := Dns.Name.key_of_eqIgnoreCase h.name
  rw [answer?_eq, answer?_eq, h.type, Registry.find?_congr z.hosts hkey, Registry.find?_congr z.services hkey]

lemma answers_of_alike (z : Zone) (h : List.Forall₂ Question.Alike questions questions') :
    z.answers questions = z.answers questions' := by
  induction h with
  | nil => rfl
  | cons hq _ ih =>
    rw [answers, answers, List.filterMap_cons, List.filterMap_cons, answer?_of_alike z hq, ← answers, ← answers, ih]

/-- The responses differ in the questions alone. Neither the flags of a request nor the class of a question
matters. -/
theorem respond_ignores_case (realm : String) (history : List Registration) (hid : request.id = request'.id)
    (hq : List.Forall₂ Question.Alike request.questions request'.questions) :
    let z := ofHistory realm history
    List.Forall₂ (fun q q' => q.name.key = q'.name.key) request.questions request'.questions ∧
    (z.respond request).answers = request.questions.filterMap (firstServing history) ∧
    (z.respond request).questions = request.questions ∧
    z.respond request' = { z.respond request with questions := request'.questions } := by
  intro z
  have hkeys := hq.imp fun _ _ h => Dns.Name.key_of_eqIgnoreCase h.name
  refine ⟨hkeys, ?_, ?_, ?_⟩
  · rw [respond_eq, answers, answer?_ofHistory]
  · rw [respond_eq]
  · rw [respond_eq, respond_eq, hid, answers_of_alike z hq]

def sigmaHosts : List Registration :=
  [.host "a\u03c2.1" ⟨0x01020304⟩, .host "a\u03c3.b" ⟨0x01020305⟩]

def sigmaRequest : Message where
  id := 7
  questions := [⟨⟨["a\u03a3", "1"]⟩, .a, .internet⟩, ⟨⟨["a\u03a3", "b"]⟩, .a, .internet⟩]

def capitalRequest : Message where
  id := 7
  questions := [⟨⟨["A\u03a3", "1"]⟩, .a, .internet⟩, ⟨⟨["A\u03a3", "B"]⟩, .a, .internet⟩]

theorem respond_capitalRequest :
    sigmaRequest.id = capitalRequest.id ∧
    List.Forall₂ Question.Alike sigmaRequest.questions capitalRequest.questions ∧
    (ofHistory "b" sigmaHosts).respond capitalRequest =
      { capitalRequest with
        flags := ⟨0x8580⟩
        answers := [hostRecord "a\u03c2.1" ⟨0x01020304⟩, hostRecord "a\u03c3.b" ⟨0x01020305⟩] } := by
  have hid : sigmaRequest.id = capitalRequest.id := rfl
  have hq : List.Forall₂ Question.Alike sigmaRequest.questions capitalRequest.questions :=
    .cons ⟨rfl, by decide +kernel⟩ (.cons ⟨rfl, by decide +kernel⟩ .nil)
  obtain ⟨_, _, _, hrespond⟩ := respond_ignores_case "b" sigmaHosts hid hq
  refine ⟨hid, hq, ?_⟩
  rw [hrespond, respond_eq, answers, answer?_ofHistory]
  decide +kernel

end Zone

end DomainLocator

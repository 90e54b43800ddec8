import DomainLocator.Proofs.Registry
import DomainLocator.Resolver
import Mathlib.Tactic.Lemma

namespace DomainLocator

namespace Zone

open Dns (Record Question Message Flags)

inductive Registration where
  | host (name : String) (addr : Address.Ipv4)
  | service (name target : String) (port : UInt16)

namespace Registration

def name : Registration → String
  | .host name _ => name
  | .service name _ _ => name

def record : Registration → Record
  | .host name addr => hostRecord name addr
  | .service name target port => serviceRecord name target port

/-- The registration is for the kind of record that the question asks for, under the question's key. -/
def Serves (c : Registration) (q : Question) : Prop :=
  c.record.type = q.type ∧ Text.lowerCase c.name = q.name.key

instance (c : Registration) (q : Question) : Decidable (c.Serves q) :=
  inferInstanceAs (Decidable (_ ∧ _))

end Registration

def register (z : Zone) : Registration → Zone × Except ServiceError Unit
  | .host name addr => z.addHost name addr
  | .service name target port => z.addService name target port

def ofHistory (realm : String) (history : List Registration) : Zone :=
  history.foldl (fun z c => (z.register c).1) (ofRealm realm)

def firstServing (history : List Registration) (q : Question) : Option Record :=
  (history.find? (·.Serves q)).map Registration.record

lemma register_of_error {z : Zone} {c : Registration} {e : ServiceError} (h : (z.register c).2 = .error e) :
    (z.register c).1 = z := by
  cases c with
  | host name addr => exact congrArg (fun hosts => { z with hosts }) (Registry.insert_of_error h)
  | service name target port => exact congrArg (fun services => { z with services }) (Registry.insert_of_error h)

lemma soa_register (z : Zone) (c : Registration) : (z.register c).1.soa = z.soa := by
  cases c <;> rfl

lemma respond_eq (z : Zone) (request : Message) : z.respond request =
    let answers := z.answers request.questions
    { id := request.id
      flags := ⟨if answers = [] then 0x8583 else 0x8580⟩
      questions := request.questions
      answers
      nameServers := if answers = [] then [z.soa] else []
      additional := [] } := by
  rw [respond]
  cases z.answers request.questions with
  | nil =>
    have hflags : Flags.response.withRcode .nameError = ⟨0x8583⟩ := rfl
    simp [Message.responseTo, Message.withRcode, Message.addNameServer, hflags]
  | cons first rest => simp [Message.responseTo, Flags.response]

lemma answer?_eq (z : Zone) (q : Question) : z.answer? q =
    if q.type = .a then z.hosts.find? q.name.dotted
    else if q.type = .srv then z.services.find? q.name.dotted
    else none := by
  obtain ⟨name, type, recordClass⟩ := q
  cases type <;> rfl

lemma Registration.serves_host {name : String} {addr : Address.Ipv4} {q : Question} :
    (host name addr).Serves q ↔ q.type = .a ∧ Text.lowerCase name = Text.lowerCase q.name.dotted := by
  rw [@eq_comm _ q.type]
  exact .rfl

lemma Registration.serves_service {name target : String} {port : UInt16} {q : Question} :
    (service name target port).Serves q ↔ q.type = .srv ∧ Text.lowerCase name = Text.lowerCase q.name.dotted := by
  rw [@eq_comm _ q.type]
  exact .rfl

lemma register_eq_ok_iff {z : Zone} {c : Registration} {q : Question} (h : c.Serves q) :
    (z.register c).2 = .ok () ↔ z.answer? q = none := by
  cases c with
  | host name addr =>
    obtain ⟨ht, hk⟩ := Registration.serves_host.mp h
    rw [answer?_eq, if_pos ht, ← Registry.find?_congr z.hosts hk]
    exact Registry.insert_eq_ok_iff
  | service name target port =>
    obtain ⟨ht, hk⟩ := Registration.serves_service.mp h
    rw [answer?_eq, if_neg (by simp [ht]), if_pos ht, ← Registry.find?_congr z.services hk]
    exact Registry.insert_eq_ok_iff

lemma answer?_register (z : Zone) (c : Registration) (q : Question) :
    (z.register c).1.answer? q = (z.answer? q).or (if c.Serves q then some c.record else none) := by
  cases c with
  | host name addr =>
    have hosts : (z.register (.host name addr)).1.hosts = (z.hosts.insert name (hostRecord name addr)).1 := rfl
    have services : (z.register (.host name addr)).1.services = z.services := rfl
    rw [answer?_eq, answer?_eq, hosts, services, Registry.find?_insert]
    simp only [Registration.serves_host]
    by_cases ha : q.type = .a
    · simp only [ha, if_true, true_and]
      rfl
    · simp [ha]
  | service name target port =>
    have hosts : (z.register (.service name target port)).1.hosts = z.hosts := rfl
    have services : (z.register (.service name target port)).1.services =
        (z.services.insert name (serviceRecord name target port)).1 := rfl
    rw [answer?_eq, answer?_eq, hosts, services, Registry.find?_insert]
    simp only [Registration.serves_service]
    by_cases hs : q.type = .srv
    · simp only [hs, reduceCtorEq, if_true, if_false, true_and]
      rfl
    · simp [hs]

lemma ofHistory_concat (realm : String) (history : List Registration) (c : Registration) :
    ofHistory realm (history ++ [c]) = ((ofHistory realm history).register c).1 := by
  rw [ofHistory, List.foldl_concat, ← ofHistory]

lemma answer?_ofRealm (realm : String) (q : Question) : (ofRealm realm).answer? q = none := by
  simp [answer?_eq, ofRealm]

lemma answer?_ofHistory (realm : String) (history : List Registration) :
    (ofHistory realm history).answer? = firstServing history := by
  induction history using List.reverseRecOn with
  | nil => exact funext (answer?_ofRealm realm)
  | append_singleton history c ih =>
    funext q
    rw [ofHistory_concat, answer?_register, ih, firstServing, firstServing, List.find?_append, Option.map_or]
    by_cases h : c.Serves q <;> simp [h]

lemma soa_ofHistory (realm : String) (history : List Registration) :
    (ofHistory realm history).soa = soaRecord realm := by
  induction history using List.reverseRecOn with
  | nil => rfl
  | append_singleton history c ih => rw [ofHistory_concat, soa_register, ih]

theorem respond_ofHistory (realm : String) (history : List Registration) (request : Message) :
    (ofHistory realm history).respond request =
      let answers := request.questions.filterMap (firstServing history)
      { id := request.id
        flags := ⟨if answers = [] then 0x8583 else 0x8580⟩
        questions := request.questions
        answers
        nameServers := if answers = [] then [soaRecord realm] else []
        additional := [] } := by
  rw [respond_eq, soa_ofHistory, answers, answer?_ofHistory]

end Zone

end DomainLocator

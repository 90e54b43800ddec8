import DomainLocator.Proofs.Ldap.MessageRoundTrip
import DomainLocator.Proofs.Locator.ReadableReply

/-! The datagram that comes back for one with a search in it. Its messages follow one another with nothing between or
after them, and the end of the search is the last of them and no other. -/

namespace DomainLocator

namespace Ldap.Message

inductive Decodes : Octets → List Message → Prop
  | nil : Decodes [] []
  | cons {input rest : Octets} {m : Message} {messages : List Message} :
      decode input = .ok (m, rest) → Decodes rest messages → Decodes input (m :: messages)

lemma decodes_flatMap {messages : List Message} (h : ∀ m ∈ messages, read.Reads m.toOctets m) :
    Decodes (messages.flatMap toOctets) messages := by
  induction messages with
  | nil => exact .nil
  | cons m messages ih =>
    rw [List.flatMap_cons]
    exact .cons (h m List.mem_cons_self _) (ih fun m' hm => h m' (List.mem_cons_of_mem m hm))

end Ldap.Message

namespace Directory

open Dns (bind_eq_ok_iff bind_eq_error_iff mapError_eq_ok_iff)
open Ldap (Message SearchRequest SearchDone ResultCode)
open Netlogon (Version Response)

variable {d : Directory} {request : Message} {replies : List Message} {search : SearchRequest} {id : Int32}
  {e : ServiceError} {datagram reply : Octets}

inductive Fault (d : Directory) (request : Message) : ServiceError → Prop
  | unexpected (h : ∀ search, request.operation ≠ .request search) :
      Fault d request (.unexpectedOperation request.operation.name)
  | shortVersion {search : SearchRequest} {bs : Octets} (hs : request.operation = .request search)
      (hv : search.filter.value? versionClause = some bs) (hl : bs.length < 4) :
      Fault d request (.invalidVersion bs.length)
  | unpackable {search : SearchRequest} {domain : String} {response : Response} {version : Version} {cause : WireError}
      (hs : request.operation = .request search) (hd : requestedDomain? search = some domain)
      (hr : d.find? domain = some response) (hv : requestedVersion search = .ok version) (hserved : isServed version)
      (hp : response.pack = .error cause) : Fault d request (.wire cause)

lemma requestedVersion_eq_error : requestedVersion search = .error e ↔
    ∃ bs, search.filter.value? versionClause = some bs ∧ bs.length < 4 ∧ e = .invalidVersion bs.length := by
  rw [requestedVersion]
  cases search.filter.value? versionClause with
  | none => simp
  | some bs =>
    by_cases hl : 4 ≤ bs.length
    · simp [hl, Nat.not_lt.mpr hl]
    · simp [hl, Nat.not_le.mp hl, eq_comm]

lemma answerSearch_unknown {version : Version} (hv : requestedVersion search = .ok version)
    (hd : (requestedDomain? search).bind d.find? = none) :
    d.answerSearch id search = .ok [done id .other (unknownDomain (requestedDomain? search))] := by
  rw [answerSearch, hv, hd]
  rfl

lemma answerSearch_unserved {version : Version} {response : Response} (hv : requestedVersion search = .ok version)
    (hd : (requestedDomain? search).bind d.find? = some response) (hs : ¬ isServed version) :
    d.answerSearch id search = .ok [done id .other unservedVersion] := by
  rw [answerSearch, hv, hd]
  exact if_neg hs

lemma answerSearch_unpackable {version : Version} {domain : String} {response : Response} {cause : WireError}
    (hv : requestedVersion search = .ok version) (hd : requestedDomain? search = some domain)
    (hr : d.find? domain = some response) (hs : isServed version) (hp : response.pack = .error cause) :
    d.answerSearch id search = .error (.wire cause) := by
  rw [answerSearch, hv, hd]
  simp only [bind, Except.bind, Option.bind, hr, hs, hp, if_true]
  rfl

lemma respond_request (hs : request.operation = .request search) :
    d.respond request = d.answerSearch request.id search := by
  rw [respond, hs]

lemma respond_unexpected (h : ∀ search, request.operation ≠ .request search) :
    d.respond request = .error (.unexpectedOperation request.operation.name) := by
  rw [respond]
  split
  · rename_i search hs
    exact absurd hs (h search)
  · rfl

lemma Fault.respond (h : Fault d request e) : d.respond request = .error e := by
  cases h with
  | unexpected h => exact respond_unexpected h
  | shortVersion hs hv hl =>
    rw [respond_request hs, answerSearch, requestedVersion_eq_error.mpr ⟨_, hv, hl, rfl⟩]
    rfl
  | unpackable hs hd hr hv hserved hp => rw [respond_request hs, answerSearch_unpackable hv hd hr hserved hp]

lemma answerDatagram_eq_ok : d.answerDatagram datagram = .ok reply ↔ ∃ request replies,
    Message.ofOctets datagram = .ok request ∧ d.respond request = .ok replies ∧
      reply = replies.flatMap Message.toOctets := by
  rw [answerDatagram]
  simp only [bind_eq_ok_iff, mapError_eq_ok_iff, pure, Except.pure, Except.ok.injEq]
  exact ⟨fun ⟨request, hd, replies, hr, h⟩ => ⟨request, replies, hd, hr, h.symm⟩,
    fun ⟨request, replies, hd, hr, h⟩ => ⟨request, hd, replies, hr, h.symm⟩⟩

lemma reads_entry {value : Octets} (h : Ber.Fits (entry id value).toOctets) :
    Message.read.Reads (entry id value).toOctets (entry id value) :=
  Message.reads (fun _ hs => by simp [entry] at hs) h

lemma reads_done {result : ResultCode} {diagnostic : String} (hr : result.canonical = result)
    (h : Ber.Fits (done id result diagnostic).toOctets) :
    Message.read.Reads (done id result diagnostic).toOctets (done id result diagnostic) := by
  have hcanonical : (done id result diagnostic).canonical = done id result diagnostic := by
    simp [done, Message.canonical, Ldap.Operation.canonical, SearchDone.canonical, hr]
  have hreads := Message.reads (fun _ hs => by simp [done] at hs) h
  rwa [hcanonical] at hreads

end Directory

end DomainLocator

import DomainLocator.Proofs.Ber.Sizes
import DomainLocator.Proofs.Ldap.MessageEncodings

/-! What was read is written in its shortest form. Reading it again gives the same message, and what was let pass or
was longer than it had to be is gone. -/

namespace DomainLocator.Ldap

open Ber (AtMost Fits Leeway)

section Sizes

variable {l : Leeway} {k : Nat}

mutual

lemma Filter.write_atMost (hl : l.Grows k) : (f : Filter) → AtMost k f.write (f.encodings l)
  | .and filters => (Filter.writeAll_atMost hl filters).element hl.pos
  | .equality name value => (((AtMost.text hl name).append (.octetString hl.pos value)).mul_tail).element hl.pos

lemma Filter.writeAll_atMost (hl : l.Grows k) :
    (filters : List Filter) → AtMost k (writeAll filters) (encodingsAll l filters)
  | [] => .nil
  | f :: filters => (Filter.write_atMost hl f).append (Filter.writeAll_atMost hl filters)

end

variable (hl : l.Grows k)
include hl

lemma SearchRequest.write_atMost (s : SearchRequest) : AtMost k s.write (s.encodings l) := by
  have hbase := AtMost.text hl s.base
  have hnumbers := ((hbase.append (.enumerated hl.pos s.scope.code)).append (.enumerated hl.pos s.deref.code)).append
    (.integer hl.pos s.sizeLimit)
  have hlimits := (hnumbers.append (.integer hl.pos s.timeLimit)).append (.boolean hl.pos s.typesOnly)
  have hfilter := hlimits.append (s.filter.write_atMost hl)
  exact (hfilter.append (.list hl.pos (AtMost.text hl))).mul_tail

lemma Attribute.write_atMost (a : Attribute) : AtMost k a.write (a.encodings l) := by
  have htype := AtMost.text hl a.type
  exact ((htype.append (.list hl.pos (AtMost.octetString hl.pos))).mul_tail).element hl.pos

lemma SearchEntry.write_atMost (e : SearchEntry) : AtMost k e.write (e.encodings l) := by
  have hobject := AtMost.text hl e.object
  exact (hobject.append (.list hl.pos (Attribute.write_atMost hl))).mul_tail

lemma SearchDone.write_atMost (d : SearchDone) : AtMost k d.write (d.encodings l) := by
  have hresult := AtMost.enumerated hl.pos d.result.code
  exact ((hresult.append (.text hl d.matchedDn)).append (.text hl d.diagnostic)).mul_tail

lemma Operation.write_atMost (o : Operation) : AtMost k o.write (o.encodings l) := by
  cases o with
  | request s => exact (s.write_atMost hl).element hl.pos
  | entry e => exact (e.write_atMost hl).element hl.pos
  | done d => exact (d.write_atMost hl).element hl.pos

lemma Message.toOctets_atMost (m : Message) : AtMost k m.toOctets (m.encodings l) :=
  (((AtMost.integer hl.pos m.id).append (m.operation.write_atMost hl)).mul_tail).element hl.pos

end Sizes

namespace Message

/-- A message that was read is read again from what is written for it. This is no longer than what it was read from,
unless text had to be replaced: three octets then stand for what may have been one. -/
theorem reencoding {input rest : Octets} {m : Message} (h : decode input = .ok (m, rest)) :
    (m.toOctets.length < UInt64.size → decode m.toOctets = .ok (m, [])) ∧
      ∃ taken ∈ m.encodings .any, taken ++ rest = input ∧ m.toOctets.length ≤ 3 * taken.length ∧
        (taken ∈ m.encodings .wellFormed → m.toOctets.length ≤ taken.length) := by
  obtain ⟨hreadable, taken, htaken, heq⟩ := (takes_read ..).mp h
  refine ⟨?_, taken, htaken, heq, m.toOctets_atMost Leeway.grows_any taken htaken, ?_⟩
  · intro hfits
    have hmem := encodings_mono Leeway.none_within_any m (toOctets_mem hfits)
    have hdecode := takes_read.reads hreadable hmem []
    rwa [List.append_nil] at hdecode
  · intro hwell
    have hle := m.toOctets_atMost Leeway.grows_wellFormed taken hwell
    rwa [Nat.one_mul] at hle

def ending : Message where
  id := 1
  operation := .done { result := .noSuchObject, diagnostic := "é" }

def slackEnding : Octets := [
  0x30, 0x84, 0x00, 0x00, 0x00, 0x17, 0x02, 0x02, 0x00, 0x01,
  0x65, 0x84, 0x00, 0x00, 0x00, 0x0b, 0x0a, 0x01, 0x20, 0x04, 0x81, 0x00, 0x04, 0x02, 0xc3, 0xa9, 0xff, 0x05, 0x00]

lemma slackEnding_mem : slackEnding ∈ ending.encodings .wellFormed := by
  have hid : [0x02, 0x02, 0x00, 0x01] ∈ Ber.integers 1 :=
    ⟨_, [0x00, 0x01], .short (by decide), ⟨2, by decide⟩, rfl⟩
  have hresult : [0x0a, 0x01, 0x20] ∈ Ber.enumerateds 32 := ⟨_, [0x20], .short (by decide), ⟨1, by decide⟩, rfl⟩
  have hmatched : [0x04, 0x81, 0x00] ∈ Ber.texts .wellFormed "" :=
    ⟨_, [], .long [0x00] (by decide) (by decide) rfl, Text.Utf8.decode?_encode "", rfl⟩
  have hdiagnostic : [0x04, 0x02, 0xc3, 0xa9] ∈ Ber.texts .wellFormed "é" :=
    ⟨_, [0xc3, 0xa9], .short (by decide), Text.Utf8.decode?_encode "é", rfl⟩
  have hleft : ∀ octets : Octets, octets ∈ Leeway.wellFormed.tail := fun _ => trivial
  have hfields := Language.append_mem_mul (Language.append_mem_mul hresult hmatched) hdiagnostic
  have hdone : _ ∈ ending.operation.encodings .wellFormed :=
    ⟨_, _, .long [0x00, 0x00, 0x00, 0x0b] (by decide) (by decide) rfl,
      Language.append_mem_mul hfields (hleft [0xff]), rfl⟩
  exact ⟨_, _, .long [0x00, 0x00, 0x00, 0x17] (by decide) (by decide) rfl,
    Language.append_mem_mul (Language.append_mem_mul hid hdone) (hleft [0x05, 0x00]), rfl⟩

theorem reencoding_slackEnding : decode (slackEnding ++ [0x30]) = .ok (ending, [0x30]) ∧
    ending.toOctets.length < UInt64.size ∧ decode ending.toOctets = .ok (ending, []) ∧
    slackEnding ∈ ending.encodings .wellFormed ∧
    ∃ taken ∈ ending.encodings .any, taken ++ [0x30] = slackEnding ++ [0x30] ∧
      ending.toOctets.length ≤ 3 * taken.length ∧
      (taken ∈ ending.encodings .wellFormed → ending.toOctets.length ≤ taken.length) := by
  have hdecode : decode (slackEnding ++ [0x30]) = .ok (ending, [0x30]) :=
    decode_of_mem_any (by nofun) (encodings_mono Leeway.wellFormed_within_any ending slackEnding_mem) [0x30]
  have hlength : ending.toOctets.length < UInt64.size := by decide
  obtain ⟨hagain, htaken⟩ := reencoding hdecode
  exact ⟨hdecode, hlength, hagain hlength, slackEnding_mem, htaken⟩

end Message

end DomainLocator.Ldap

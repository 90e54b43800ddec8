import DomainLocator.Proofs.Ber.Rejection
import DomainLocator.Proofs.Ber.Sizes
import DomainLocator.Proofs.Ldap.MessageEncodings

namespace DomainLocator.Ldap

open Ber (AtLeast Leeway)

namespace Filter

mutual

def nodes : Filter → Nat
  | .and filters => nodesInside filters + 1
  | .equality .. => 1

def nodesInside : List Filter → Nat
  | [] => 0
  | filter :: filters => nodes filter + nodesInside filters

end

end Filter

def Operation.parts : Operation → Nat
  | .request s => s.filter.nodes + s.attributes.length
  | .entry e => e.attributes.length + (e.attributes.map fun a => a.values.length).sum
  | .done _ => 0

section Sizes

variable {l : Leeway}

lemma atLeast_texts (s : String) : AtLeast 2 (Ber.texts l s) :=
  AtLeast.zero.element _

mutual

lemma Filter.atLeast_encodings : (f : Filter) → AtLeast (2 * f.nodes) (f.encodings l)
  | .and filters => (Filter.atLeast_encodingsAll filters).element andTag
  | .equality .. => AtLeast.zero.element equalityTag

lemma Filter.atLeast_encodingsAll : (filters : List Filter) → AtLeast (2 * nodesInside filters) (encodingsAll l filters)
  | [] => .zero
  | f :: filters => by
    rw [nodesInside, Nat.mul_add]
    exact (Filter.atLeast_encodings f).mul (Filter.atLeast_encodingsAll filters)

end

lemma SearchRequest.atLeast_encodings (s : SearchRequest) :
    AtLeast (2 * (s.filter.nodes + s.attributes.length)) (s.encodings l) := by
  have hfilter : AtLeast (2 * s.filter.nodes) (s.filter.encodings l) := s.filter.atLeast_encodings
  have hattributes := AtLeast.list (fun _ => 0) (atLeast_texts (l := l)) .sequence s.attributes
  exact (((AtLeast.zero.mul hfilter).mul hattributes).mul .zero).of_le (by omega)

lemma Attribute.atLeast_encodings (a : Attribute) : AtLeast (2 * a.values.length + 2) (a.encodings l) := by
  have hvalue : ∀ bs, AtLeast (2 * 0 + 2) (Ber.octetStrings bs) := fun _ => AtLeast.zero.element _
  have hvalues := AtLeast.list (fun _ => 0) hvalue .set a.values
  exact (((AtLeast.zero.mul hvalues).mul .zero).element (Ber.tagOf .sequence)).of_le (by omega)

lemma SearchEntry.atLeast_encodings (e : SearchEntry) :
    AtLeast (2 * (e.attributes.length + (e.attributes.map fun a => a.values.length).sum)) (e.encodings l) := by
  have hattributes := AtLeast.list _ (Attribute.atLeast_encodings (l := l)) .sequence e.attributes
  exact ((AtLeast.zero.mul hattributes).mul .zero).of_le (by omega)

lemma Operation.atLeast_encodings (o : Operation) : AtLeast (2 * o.parts) (o.encodings l) := by
  cases o with
  | request s => exact (s.atLeast_encodings.element requestTag).of_le (by simp [parts])
  | entry e => exact (e.atLeast_encodings.element entryTag).of_le (by simp [parts])
  | done d => exact .zero

lemma Message.atLeast_encodings (m : Message) : AtLeast (2 * m.operation.parts) (m.encodings l) := by
  have hoperation : AtLeast (2 * m.operation.parts) (m.operation.encodings l) := m.operation.atLeast_encodings
  exact (((AtLeast.zero.mul hoperation).mul .zero).element (Ber.tagOf .sequence)).of_le (by omega)

end Sizes

namespace Message

variable {input rest : Octets} {m : Message} {e : WireError}

lemma decode_eq_error (h : Ber.read.next input = .error e) : decode input = .error e := by
  apply Ber.next_andThen_eq_error_iff.mpr
  left
  apply Ber.next_andThen_eq_error_iff.mpr
  exact .inl h

theorem decode_extent (h : decode input = .ok (m, rest)) : ∃ taken, taken ++ rest = input ∧ taken ≠ [] ∧
    (∀ following, decode (taken ++ following) = .ok (m, following)) ∧
    (∀ cut, cut <+: taken → cut ≠ taken → ∃ cause, decode cut = .error (.invalidBer cause)) ∧
    m.operation.parts ≤ taken.length / 2 ∧ ∀ s, m.operation = .request s → s.filter.depth ≤ 31 := by
  obtain ⟨hreadable, taken, htaken, heq⟩ := (takes_read ..).mp h
  have hparts := m.atLeast_encodings taken htaken
  refine ⟨taken, heq, ?_, takes_read.reads hreadable htaken, ?_, by omega, ?_⟩
  · obtain ⟨after, rfl⟩ := Ber.exists_cons_of_mem_elements htaken
    exact List.cons_ne_nil _ after
  · intro cut hcut hne
    obtain ⟨cause, hcause⟩ := Ber.next_read_of_cut htaken hcut hne
    exact ⟨cause, decode_eq_error hcause⟩
  · intro s hs
    rw [hs] at hreadable
    exact Nat.le_of_lt_succ hreadable

theorem decode_extent_padded : decode (padded ++ [0x30]) = .ok (search, [0x30]) ∧
    (∀ following, decode (padded ++ following) = .ok (search, following)) ∧
    (∀ cut, cut <+: padded → cut ≠ padded → ∃ cause, decode cut = .error (.invalidBer cause)) ∧
    search.operation.parts = 3 ∧ search.operation.parts ≤ padded.length / 2 := by
  have hdepth : ∀ s, search.operation = .request s → s.filter.depth ≤ 31 := by
    intro s hs
    cases hs
    decide
  have hdecode : decode (padded ++ [0x30]) = .ok (search, [0x30]) :=
    decode_of_mem_any hdepth (encodings_mono Leeway.none_within_any search padded_mem) [0x30]
  obtain ⟨taken, htaken, -, hfollowing, hcut, hparts, -⟩ := decode_extent hdecode
  cases List.append_cancel_right htaken
  exact ⟨hdecode, hfollowing, hcut, rfl, hparts⟩

end Message

end DomainLocator.Ldap

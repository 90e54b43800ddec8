import DomainLocator.Ldap.Message
import DomainLocator.Proofs.Ldap.FilterEncodings

/-! The octets that stand for a message. Whoever wrote them, if they stand for a message with a filter that is not too
deep, then this is the message that is read. -/

namespace DomainLocator.Ldap

open Ber (Fits Leeway)

def ResultCode.canonical : ResultCode → ResultCode
  | .unregistered code => .ofCode code
  | result => result

def SearchDone.canonical (d : SearchDone) : SearchDone :=
  { d with result := d.result.canonical }

def Operation.canonical : Operation → Operation
  | .request search => .request search
  | .entry e => .entry e
  | .done d => .done d.canonical

def Message.canonical (m : Message) : Message :=
  { m with operation := m.operation.canonical }

def SearchRequest.encodings (l : Leeway) (s : SearchRequest) : Language UInt8 :=
  Ber.texts l s.base * Ber.enumerateds s.scope.code * Ber.enumerateds s.deref.code * Ber.integers s.sizeLimit *
    Ber.integers s.timeLimit * Ber.booleans s.typesOnly * s.filter.encodings l *
    Ber.lists .sequence (Ber.texts l) s.attributes * l.tail

def Attribute.encodings (l : Leeway) (a : Attribute) : Language UInt8 :=
  Ber.elements (Ber.tagOf .sequence) (Ber.texts l a.type * Ber.lists .set Ber.octetStrings a.values * l.tail)

def SearchEntry.encodings (l : Leeway) (e : SearchEntry) : Language UInt8 :=
  Ber.texts l e.object * Ber.lists .sequence (Attribute.encodings l) e.attributes * l.tail

def SearchDone.encodings (l : Leeway) (d : SearchDone) : Language UInt8 :=
  Ber.enumerateds d.result.code * Ber.texts l d.matchedDn * Ber.texts l d.diagnostic * l.tail

def Operation.encodings (l : Leeway) : Operation → Language UInt8
  | .request search => Ber.elements requestTag (search.encodings l)
  | .entry e => Ber.elements entryTag (e.encodings l)
  | .done d => Ber.elements doneTag (d.encodings l)

def Message.encodings (l : Leeway) (m : Message) : Language UInt8 :=
  Ber.elements (Ber.tagOf .sequence) (Ber.integers m.id * m.operation.encodings l * l.tail)

section Mono

variable {l l' : Leeway} (h : l.Within l')
include h

lemma SearchRequest.encodings_mono (s : SearchRequest) : s.encodings l ≤ s.encodings l' := by
  have hbase := Ber.texts_mono h s.base
  have hfilter := Filter.encodings_mono h s.filter
  have hattributes : Ber.lists .sequence (Ber.texts l) s.attributes ≤ Ber.lists .sequence (Ber.texts l') s.attributes :=
    Ber.lists_mono (Ber.texts_mono h)
  have htail := h.tail
  unfold encodings
  gcongr

lemma Attribute.encodings_mono (a : Attribute) : a.encodings l ≤ a.encodings l' := by
  have htype := Ber.texts_mono h a.type
  have htail := h.tail
  apply Ber.elements_mono
  gcongr

lemma SearchEntry.encodings_mono (e : SearchEntry) : e.encodings l ≤ e.encodings l' := by
  have hobject := Ber.texts_mono h e.object
  have hattributes : Ber.lists .sequence (Attribute.encodings l) e.attributes ≤
      Ber.lists .sequence (Attribute.encodings l') e.attributes := Ber.lists_mono (Attribute.encodings_mono h)
  have htail := h.tail
  unfold encodings
  gcongr

lemma SearchDone.encodings_mono (d : SearchDone) : d.encodings l ≤ d.encodings l' := by
  have hmatched := Ber.texts_mono h d.matchedDn
  have hdiagnostic := Ber.texts_mono h d.diagnostic
  have htail := h.tail
  unfold encodings
  gcongr

lemma Operation.encodings_mono (o : Operation) : o.encodings l ≤ o.encodings l' := by
  cases o with
  | request s => exact Ber.elements_mono (s.encodings_mono h)
  | entry e => exact Ber.elements_mono (e.encodings_mono h)
  | done d => exact Ber.elements_mono (d.encodings_mono h)

lemma Message.encodings_mono (m : Message) : m.encodings l ≤ m.encodings l' := by
  have hoperation := m.operation.encodings_mono h
  have htail := h.tail
  apply Ber.elements_mono
  gcongr

end Mono

section Writing

lemma SearchRequest.write_mem {s : SearchRequest} (hfits : Fits s.write) : s.write ∈ s.encodings .none := by
  have hbase := Ber.writeText_mem hfits.left.left.left.left.left.left.left
  have hscope := Language.append_mem_mul hbase (Ber.writeEnumerated_mem s.scope.code)
  have hderef := Language.append_mem_mul hscope (Ber.writeEnumerated_mem s.deref.code)
  have hsize := Language.append_mem_mul hderef (Ber.writeInteger_mem s.sizeLimit)
  have htime := Language.append_mem_mul hsize (Ber.writeInteger_mem s.timeLimit)
  have htypes := Language.append_mem_mul htime (Ber.writeBoolean_mem s.typesOnly)
  have hfilter := Language.append_mem_mul htypes (s.filter.write_mem hfits.left.right)
  have hattributes := Ber.writeList_mem hfits.right fun _ _ => Ber.writeText_mem
  rw [encodings, Leeway.none, mul_one]
  exact Language.append_mem_mul hfilter hattributes

lemma Attribute.write_mem {a : Attribute} (hfits : Fits a.write) : a.write ∈ a.encodings .none := by
  have htype := Ber.writeText_mem hfits.contents.left
  have hvalues := Ber.writeList_mem hfits.contents.right fun _ _ => Ber.writeOctets_mem
  rw [encodings, Leeway.none, mul_one]
  exact Ber.element_mem hfits.contents (Language.append_mem_mul htype hvalues)

lemma SearchEntry.write_mem {e : SearchEntry} (hfits : Fits e.write) : e.write ∈ e.encodings .none := by
  have hobject := Ber.writeText_mem hfits.left
  have hattributes := Ber.writeList_mem hfits.right fun _ _ => Attribute.write_mem
  rw [encodings, Leeway.none, mul_one]
  exact Language.append_mem_mul hobject hattributes

lemma SearchDone.write_mem {d : SearchDone} (hfits : Fits d.write) : d.write ∈ d.encodings .none := by
  have hresult := Ber.writeEnumerated_mem d.result.code
  have hmatched := Ber.writeText_mem hfits.left.right
  have hdiagnostic := Ber.writeText_mem hfits.right
  rw [encodings, Leeway.none, mul_one]
  exact Language.append_mem_mul (Language.append_mem_mul hresult hmatched) hdiagnostic

lemma Operation.write_mem {o : Operation} (hfits : Fits o.write) : o.write ∈ o.encodings .none := by
  cases o with
  | request s => exact Ber.element_mem hfits.contents (SearchRequest.write_mem hfits.contents)
  | entry e => exact Ber.element_mem hfits.contents (SearchEntry.write_mem hfits.contents)
  | done d => exact Ber.element_mem hfits.contents (SearchDone.write_mem hfits.contents)

lemma Message.toOctets_mem {m : Message} (hfits : Fits m.toOctets) : m.toOctets ∈ m.encodings .none := by
  have hoperation := Operation.write_mem hfits.contents.right
  rw [encodings, Leeway.none, mul_one]
  exact Ber.element_mem hfits.contents (Language.append_mem_mul (Ber.writeInteger_mem m.id) hoperation)

end Writing

section Canonical

variable {l : Leeway}

lemma ResultCode.ofCode_code_eq (result : ResultCode) : ofCode result.code = result.canonical := by
  cases result with
  | unregistered code => rfl
  | _ => exact ofCode_code (by simp)

@[simp]
lemma ResultCode.code_canonical (result : ResultCode) : result.canonical.code = result.code := by
  rw [← ofCode_code_eq, code_ofCode]

@[simp]
lemma SearchDone.encodings_canonical (d : SearchDone) : d.canonical.encodings l = d.encodings l := by
  rw [encodings, canonical, ResultCode.code_canonical]
  rfl

@[simp]
lemma Operation.encodings_canonical (o : Operation) : o.canonical.encodings l = o.encodings l := by
  cases o with
  | request s => rfl
  | entry e => rfl
  | done d => rw [canonical, encodings, SearchDone.encodings_canonical, encodings]

@[simp]
lemma Message.encodings_canonical (m : Message) : m.canonical.encodings l = m.encodings l := by
  rw [encodings, canonical, Operation.encodings_canonical]
  rfl

end Canonical

section Reading

lemma Scope.ofCode_eq_ok_iff {code : Int32} {scope : Scope} : ofCode code = .ok scope ↔ scope.code = code := by
  constructor
  · intro h
    unfold ofCode at h
    repeat' split at h
    all_goals
      cases h
    all_goals
      subst ‹code = _›
      rfl
  · rintro rfl
    exact ofCode_code scope

lemma Deref.ofCode_eq_ok_iff {code : Int32} {deref : Deref} : ofCode code = .ok deref ↔ deref.code = code := by
  constructor
  · intro h
    unfold ofCode at h
    repeat' split at h
    all_goals
      cases h
    all_goals
      subst ‹code = _›
      rfl
  · rintro rfl
    exact ofCode_code deref

lemma SearchRequest.decodes_read :
    Ber.Decodes read.within (encodings .any) fun s => s.filter.depth < Filter.maxDepth := by
  have hwords : encodings .any = fun s => Ber.texts .any s.base * (Ber.enumerateds s.scope.code *
      (Ber.enumerateds s.deref.code * (Ber.integers s.sizeLimit * (Ber.integers s.timeLimit *
      (Ber.booleans s.typesOnly * (s.filter.encodings .any *
      (Ber.lists .sequence (Ber.texts .any) s.attributes * ⊤))))))) := by
    funext s
    simp only [encodings, mul_assoc]
    rfl
  rw [hwords]
  refine .bind base Ber.takes_text (fun _ _ => trivial) fun base _ => ?_
  refine .bindCode scope (fun _ _ => Scope.ofCode_eq_ok_iff) Ber.takes_enumerated fun scope => ?_
  refine .bindCode deref (fun _ _ => Deref.ofCode_eq_ok_iff) Ber.takes_enumerated fun deref => ?_
  refine .bind sizeLimit Ber.takes_integer (fun _ _ => trivial) fun sizeLimit _ => ?_
  refine .bind timeLimit Ber.takes_integer (fun _ _ => trivial) fun timeLimit _ => ?_
  refine .bind typesOnly Ber.takes_boolean (fun _ _ => trivial) fun typesOnly _ => ?_
  refine .bind filter (Filter.takes_read Filter.maxDepth) (by grind) fun filter hfilter => ?_
  refine .bind attributes (Ber.takes_listOf .sequence Ber.takes_text) (by grind) fun attributes _ => ?_
  refine .pure fun s => ⟨?_, ?_⟩
  · rintro rfl
    exact ⟨rfl, rfl, rfl, rfl, rfl, rfl, rfl, rfl, hfilter⟩
  · rintro ⟨rfl, rfl, rfl, rfl, rfl, rfl, rfl, rfl, -⟩
    rfl

lemma Attribute.takes_read : Ber.Reading.Takes read.next (encodings .any) := by
  refine Ber.Decodes.takes ?_ .sequence
  simp only [mul_assoc]
  refine .bind type Ber.takes_text (fun _ _ => trivial) fun type _ => ?_
  refine .bind values (Ber.takes_listOf .set Ber.takes_octetString) (by grind) fun values _ => ?_
  refine .pure fun a => ⟨?_, ?_⟩
  · rintro rfl
    exact ⟨rfl, rfl, trivial⟩
  · rintro ⟨rfl, rfl, -⟩
    rfl

lemma SearchEntry.decodes_read : Ber.Decodes read.within (encodings .any) := by
  unfold encodings
  simp only [mul_assoc]
  refine .bind object Ber.takes_text (fun _ _ => trivial) fun object _ => ?_
  refine .bind attributes (Ber.takes_listOf .sequence Attribute.takes_read) (by grind) fun attributes _ => ?_
  refine .pure fun a => ⟨?_, ?_⟩
  · rintro rfl
    exact ⟨rfl, rfl, trivial⟩
  · rintro ⟨rfl, rfl, -⟩
    rfl

lemma SearchDone.decodes_read : Ber.Decodes read.within (encodings .any) fun d => d.canonical = d := by
  unfold encodings
  simp only [mul_assoc]
  refine .bind (fun d : SearchDone => d.result.code) Ber.takes_enumerated (fun _ _ => trivial) fun code _ => ?_
  refine .bind matchedDn Ber.takes_text (fun _ _ => trivial) fun matchedDn _ => ?_
  refine .bind diagnostic Ber.takes_text (fun _ _ => trivial) fun diagnostic _ => ?_
  refine .pure fun d => ⟨?_, ?_⟩
  · rintro rfl
    refine ⟨rfl, rfl, ResultCode.code_ofCode code, ?_⟩
    rw [canonical, ← ResultCode.ofCode_code_eq, ResultCode.code_ofCode]
  · rintro ⟨rfl, rfl, rfl, hd⟩
    rw [ResultCode.ofCode_code_eq]
    exact hd

def Operation.Readable : Operation → Prop
  | .request s => s.filter.depth < Filter.maxDepth
  | .entry _ => True
  | .done d => d.canonical = d

lemma Operation.takes_read : Ber.Reading.Takes read (encodings .any) Readable := by
  have hrequest : Ber.numberOf requestTag ≠ 31 := by decide
  have hentry : Ber.numberOf entryTag ≠ 31 := by decide
  have hdone : Ber.numberOf doneTag ≠ 31 := by decide
  intro input o rest
  constructor
  · intro h
    match input, h with
    | tag :: after, h =>
      by_cases h₁ : tag = requestTag
      · subst h₁
        obtain ⟨s, rfl, hs, htaken⟩ := (SearchRequest.decodes_read.run_read_eq_ok_iff hrequest).mp h
        exact ⟨hs, htaken⟩
      by_cases h₂ : tag = entryTag
      · subst h₂
        obtain ⟨e, rfl, he, htaken⟩ := (SearchEntry.decodes_read.run_read_eq_ok_iff hentry).mp h
        exact ⟨he, htaken⟩
      by_cases h₃ : tag = doneTag
      · subst h₃
        obtain ⟨d, rfl, hd, htaken⟩ := (SearchDone.decodes_read.run_read_eq_ok_iff hdone).mp h
        exact ⟨hd, htaken⟩
      · change StateT.run (if tag = requestTag then _ else _) (tag :: after) = _ at h
        rw [if_neg h₁, if_neg h₂, if_neg h₃] at h
        contradiction
  · rintro ⟨ho, taken, htaken, rfl⟩
    cases o with
    | request s =>
      -- The tag is looked at before the element is read, so the input has to be seen to begin with it.
      obtain ⟨after, rfl⟩ := Ber.exists_cons_of_mem_elements htaken
      exact (SearchRequest.decodes_read.run_read_eq_ok_iff hrequest).mpr ⟨s, rfl, ho, _, htaken, rfl⟩
    | entry e =>
      obtain ⟨after, rfl⟩ := Ber.exists_cons_of_mem_elements htaken
      exact (SearchEntry.decodes_read.run_read_eq_ok_iff hentry).mpr ⟨e, rfl, ho, _, htaken, rfl⟩
    | done d =>
      obtain ⟨after, rfl⟩ := Ber.exists_cons_of_mem_elements htaken
      exact (SearchDone.decodes_read.run_read_eq_ok_iff hdone).mpr ⟨d, rfl, ho, _, htaken, rfl⟩

lemma Message.takes_read : Ber.Reading.Takes read.next (encodings .any) fun m => m.operation.Readable := by
  refine Ber.Decodes.takes ?_ .sequence
  simp only [mul_assoc]
  refine .bind id Ber.takes_integer (fun _ _ => trivial) fun id _ => ?_
  refine .bind operation Operation.takes_read (fun _ h => h.2) fun operation hoperation => ?_
  refine .pure fun m => ⟨?_, ?_⟩
  · rintro rfl
    exact ⟨rfl, rfl, hoperation⟩
  · rintro ⟨rfl, rfl, -⟩
    rfl

end Reading

lemma Operation.readable_canonical {o : Operation} (h : ∀ s, o = .request s → s.filter.depth ≤ 31) :
    o.canonical.Readable := by
  cases o with
  | request s => exact Nat.lt_succ_of_le (h s rfl)
  | entry e => trivial
  | done d =>
    rw [canonical, Readable, SearchDone.canonical, SearchDone.canonical, ← ResultCode.ofCode_code_eq,
      ResultCode.code_canonical, ResultCode.ofCode_code_eq]

namespace Message

lemma decode_of_mem_any {m : Message} {octets : Octets} (hdepth : ∀ s, m.operation = .request s → s.filter.depth ≤ 31)
    (h : octets ∈ m.encodings .any) (rest : Octets) : decode (octets ++ rest) = .ok (m.canonical, rest) := by
  rw [← encodings_canonical] at h
  exact takes_read.reads (Operation.readable_canonical hdepth) h rest

/-- Every length may be given in any of its forms, every number in any of its widths, and truth as any octet but zero.
What the writer gives is one such choice. -/
theorem decode_of_mem_encodings (m : Message) (hdepth : ∀ s, m.operation = .request s → s.filter.depth ≤ 31) :
    (∀ octets ∈ m.encodings .none, decode octets = .ok (m.canonical, [])) ∧
      (m.toOctets.length < UInt64.size → m.toOctets ∈ m.encodings .none) := by
  refine ⟨?_, toOctets_mem⟩
  intro octets hmem
  have hdecode := decode_of_mem_any hdepth (encodings_mono Leeway.none_within_any m hmem) []
  rwa [List.append_nil] at hdecode

def search : Message where
  id := 1
  operation := .request {
    timeLimit := -1
    typesOnly := true
    filter := .and [.and []]
    attributes := ["Netlogon"] }

def padded : Octets := [
  0x30, 0x84, 0x00, 0x00, 0x00, 0x38, 0x02, 0x82, 0x00, 0x02, 0x00, 0x01,
  0x63, 0x81, 0x2f, 0x04, 0x81, 0x00, 0x0a, 0x02, 0x00, 0x00, 0x0a, 0x81, 0x01, 0x00,
  0x02, 0x04, 0x00, 0x00, 0x00, 0x00, 0x02, 0x02, 0xff, 0xff, 0x01, 0x01, 0x2a,
  0xa0, 0x84, 0x00, 0x00, 0x00, 0x03, 0xa0, 0x81, 0x00,
  0x30, 0x82, 0x00, 0x0a, 0x04, 0x08, 0x4e, 0x65, 0x74, 0x6c, 0x6f, 0x67, 0x6f, 0x6e]

lemma padded_mem : padded ∈ search.encodings .none := by
  have hid : [0x02, 0x82, 0x00, 0x02, 0x00, 0x01] ∈ Ber.integers 1 :=
    ⟨_, [0x00, 0x01], .long [0x00, 0x02] (by decide) (by decide) rfl, ⟨2, by decide⟩, rfl⟩
  have hbase : [0x04, 0x81, 0x00] ∈ Ber.texts .none "" := ⟨_, [], .long [0x00] (by decide) (by decide) rfl, rfl, rfl⟩
  have hscope : [0x0a, 0x02, 0x00, 0x00] ∈ Ber.enumerateds 0 :=
    ⟨_, [0x00, 0x00], .short (by decide), ⟨2, by decide⟩, rfl⟩
  have hderef : [0x0a, 0x81, 0x01, 0x00] ∈ Ber.enumerateds 0 :=
    ⟨_, [0x00], .long [0x01] (by decide) (by decide) rfl, ⟨1, by decide⟩, rfl⟩
  have hsize : [0x02, 0x04, 0x00, 0x00, 0x00, 0x00] ∈ Ber.integers 0 :=
    ⟨_, [0x00, 0x00, 0x00, 0x00], .short (by decide), ⟨4, by decide⟩, rfl⟩
  have htime : [0x02, 0x02, 0xff, 0xff] ∈ Ber.integers (-1) :=
    ⟨_, [0xff, 0xff], .short (by decide), ⟨2, by decide⟩, rfl⟩
  have htypes : [0x01, 0x01, 0x2a] ∈ Ber.booleans true := ⟨_, [0x2a], .short (by decide), ⟨0x2a, rfl, rfl⟩, rfl⟩
  have hinner : [0xa0, 0x81, 0x00] ∈ (Filter.and []).encodings .none :=
    ⟨_, [], .long [0x00] (by decide) (by decide) rfl, rfl, rfl⟩
  have hfilter : [0xa0, 0x84, 0x00, 0x00, 0x00, 0x03, 0xa0, 0x81, 0x00] ∈ (Filter.and [.and []]).encodings .none :=
    ⟨_, _, .long [0x00, 0x00, 0x00, 0x03] (by decide) (by decide) rfl, Language.append_mem_mul hinner rfl, rfl⟩
  have hname : [0x04, 0x08, 0x4e, 0x65, 0x74, 0x6c, 0x6f, 0x67, 0x6f, 0x6e] ∈ Ber.texts .none "Netlogon" :=
    ⟨_, _, .short (by decide), rfl, rfl⟩
  have hattributes : [0x30, 0x82, 0x00, 0x0a, 0x04, 0x08, 0x4e, 0x65, 0x74, 0x6c, 0x6f, 0x67, 0x6f, 0x6e] ∈
      Ber.lists .sequence (Ber.texts .none) ["Netlogon"] :=
    ⟨_, _, .long [0x00, 0x0a] (by decide) (by decide) rfl, Language.append_mem_mul hname rfl, rfl⟩
  have hlimits := Language.append_mem_mul (Language.append_mem_mul (Language.append_mem_mul (Language.append_mem_mul
    (Language.append_mem_mul hbase hscope) hderef) hsize) htime) htypes
  have hfields := Language.append_mem_mul (Language.append_mem_mul hlimits hfilter) hattributes
  have hsearch : _ ∈ search.operation.encodings .none :=
    ⟨_, _, .long [0x2f] (by decide) (by decide) rfl, Language.append_mem_mul hfields rfl, rfl⟩
  exact ⟨_, _, .long [0x00, 0x00, 0x00, 0x38] (by decide) (by decide) rfl,
    Language.append_mem_mul (Language.append_mem_mul hid hsearch) rfl, rfl⟩

theorem decode_padded : (∀ s, search.operation = .request s → s.filter.depth ≤ 31) ∧
    padded ∈ search.encodings .none ∧ padded ≠ search.toOctets ∧ decode padded = .ok (search.canonical, []) := by
  have hdepth : ∀ s, search.operation = .request s → s.filter.depth ≤ 31 := by
    intro s hs
    cases hs
    decide
  exact ⟨hdepth, padded_mem, by decide, (decode_of_mem_encodings search hdepth).1 padded padded_mem⟩

end Message

end DomainLocator.Ldap

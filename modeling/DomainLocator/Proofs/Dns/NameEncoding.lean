import DomainLocator.Proofs.Dns.NameCompression

/-! Whether a name can be written does not depend on what was written before it. The first label at fault is always
met, as pointers lead only to names that were written. -/

namespace DomainLocator.Dns.Name

variable {w w' : Writer} {stop : Interrupted} {n : Name} {compress : Bool} {label : String} {labels rest : List String}
  {cause : WireError} {bs : Array UInt8} {pos past : Nat}

def Encodable (n : Name) : Prop :=
  ∀ label ∈ dropRoot n.labels, label ≠ "" ∧ (Text.Utf8.encode label).length ≤ 63

instance (n : Name) : Decidable n.Encodable :=
  inferInstanceAs (Decidable (∀ label ∈ dropRoot n.labels, _))

def labelsFault? (n : Name) : List String → Option WireError
  | [] => none
  | label :: rest =>
    if label = "" then if rest = [] then none else some (.emptyLabel n.dotted)
    else if maxLabel < (Text.Utf8.encode label).length then some (.labelTooLong (Text.Utf8.encode label).length label)
    else n.labelsFault? rest

def fault? (n : Name) : Option WireError :=
  n.labelsFault? n.labels

def literalForm (labels : List String) : Octets :=
  (dropRoot labels).flatMap literal ++ [0]

lemma dropRoot_eq_self (h : "" ∉ labels) : dropRoot labels = labels := by
  rw [dropRoot, if_neg fun hl => h (List.mem_of_getLast? hl)]

lemma empty_mem_dropRoot (h : rest ≠ []) : "" ∈ dropRoot ("" :: rest) := by
  rw [dropRoot]
  split
  · rw [List.dropLast_cons_of_ne_nil h]
    exact List.mem_cons_self
  · exact List.mem_cons_self

lemma literalForm_cons (h : label ≠ "") : literalForm (label :: rest) = literal label ++ literalForm rest := by
  rw [literalForm, dropRoot_cons h, List.flatMap_cons, List.append_assoc]
  rfl

lemma length_literalForm_pos (labels : List String) : 0 < (literalForm labels).length := by
  rw [literalForm, List.length_append, List.length_singleton]
  omega

lemma length_literal (h : label ≠ "") : 2 ≤ (literal label).length := by
  have := List.length_pos_iff.mpr (encode_ne_nil h)
  rw [literal, List.length_cons]
  omega

lemma labelsFault?_eq_none (n : Name)
    (h : ∀ label ∈ dropRoot labels, label ≠ "" ∧ (Text.Utf8.encode label).length ≤ maxLabel) :
    n.labelsFault? labels = none := by
  induction labels with
  | nil => rfl
  | cons label rest ih =>
    rw [labelsFault?]
    by_cases hl : label = ""
    · subst hl
      have hr : rest = [] := by
        by_contra hr
        exact (h "" (empty_mem_dropRoot hr)).1 rfl
      rw [if_pos rfl, if_pos hr]
    · rw [dropRoot_cons hl, List.forall_mem_cons] at h
      rw [if_neg hl, if_neg (Nat.not_lt_of_le h.1.2)]
      exact ih h.2

lemma labelsFault?_eq_some (h : n.labelsFault? labels = some cause) : cause = .emptyLabel n.dotted ∧ "" ∈ labels ∨
    ∃ label ∈ labels, maxLabel < (Text.Utf8.encode label).length ∧
      cause = .labelTooLong (Text.Utf8.encode label).length label := by
  induction labels with
  | nil => contradiction
  | cons label rest ih =>
    rw [labelsFault?] at h
    split at h
    · split at h
      · contradiction
      · cases h
        subst label
        exact .inl ⟨rfl, List.mem_cons_self⟩
    split at h
    · cases h
      exact .inr ⟨label, List.mem_cons_self, ‹_›, rfl⟩
    · rcases ih h with ⟨hc, hm⟩ | ⟨long, hm, hlt, hc⟩
      · exact .inl ⟨hc, .tail _ hm⟩
      · exact .inr ⟨long, .tail _ hm, hlt, hc⟩

lemma writeLabels_eq_error (h : writeLabels n compress labels w = .error stop) :
    n.labelsFault? labels = some stop.cause := by
  induction labels generalizing w with
  | nil => contradiction
  | cons label rest ih =>
    rw [writeLabels] at h
    rw [labelsFault?]
    split at h
    · split at h
      · contradiction
      · cases h
        rw [if_pos ‹_›, if_neg ‹_›]
    split at h
    · cases h
      rw [if_neg ‹_›, if_pos ‹_›]
    rw [if_neg ‹_›, if_neg ‹_›]
    split at h
    · split at h
      · contradiction
      · exact ih h
    · exact ih h

lemma write_eq_error (h : n.write compress w = .error stop) : n.fault? = some stop.cause :=
  writeLabels_eq_error h

namespace Encodable

lemma fault?_eq_none (h : n.Encodable) : n.fault? = none :=
  n.labelsFault?_eq_none h

lemma exists_write (h : n.Encodable) (compress : Bool) (w : Writer) : ∃ w', n.write compress w = .ok w' := by
  cases hw : n.write compress w with
  | ok w' => exact ⟨w', rfl⟩
  | error stop =>
    have hf := h.fault?_eq_none
    rw [write_eq_error hw] at hf
    contradiction

lemma canonical (h : n.Encodable) : n.canonical.Encodable := by
  have hself : dropRoot (dropRoot n.labels) = dropRoot n.labels := dropRoot_eq_self fun hm => (h _ hm).1 rfl
  intro label hl
  exact h label (hself ▸ hl)

end Encodable

lemma Spells.length_label {octets : List Octets} (h : Spells bs pos octets past) :
    ∀ label ∈ octets, 0 < label.length ∧ label.length ≤ maxLabel := by
  induction h with
  | root _ => simp
  | label h _ ih => exact List.forall_mem_cons.mpr ⟨h.1, ih⟩
  | pointer _ _ _ ih => exact ih

lemma encodable_of_write (hw : w.Faithful) (h : n.write compress w = .ok w') : n.Encodable := by
  intro label hl
  -- Where part of the name is left to a pointer, its labels can be read.
  obtain ⟨hpos, hle⟩ := (write_wrote hw h).stands.length_label _ (List.mem_map_of_mem hl)
  refine ⟨?_, hle⟩
  rintro rfl
  exact Nat.lt_irrefl 0 hpos

lemma Writes.size (h : Writes compress labels w w') :
    w'.octets.size ≤ w.octets.size + (literalForm labels).length ∧
      (compress = false → w'.octets.size = w.octets.size + (literalForm labels).length) := by
  induction h with
  | nil => exact ⟨Nat.le_of_eq (size_append_octets ..), fun _ => size_append_octets ..⟩
  | root => exact ⟨Nat.le_of_eq (size_append_octets ..), fun _ => size_append_octets ..⟩
  | @pointer label rest w target hc hl _ =>
    have hliteral := length_literal hl
    have hrest := length_literalForm_pos rest
    rw [literalForm_cons hl, List.length_append, Writer.octets_append, size_append_octets, Octets.length_bigEndian]
    refine ⟨by omega, ?_⟩
    intro hf
    rw [hc] at hf
    contradiction
  | known _ hl _ _ _ ih =>
    rw [Writer.octets_append, size_append_octets] at ih
    rwa [literalForm_cons hl, List.length_append, ← Nat.add_assoc]
  | fresh hl _ _ _ ih =>
    rw [Writer.octets_append, Writer.octets_note, size_append_octets] at ih
    rwa [literalForm_cons hl, List.length_append, ← Nat.add_assoc]

lemma size_write (h : n.write compress w = .ok w') : w'.octets.size ≤ w.octets.size + (literalForm n.labels).length :=
  (writes_of_writeLabels h).size.1

lemma size_write_uncompressed (h : n.write false w = .ok w') :
    w'.octets.size = w.octets.size + (literalForm n.labels).length :=
  (writes_of_writeLabels h).size.2 rfl

lemma dropRoot_single (label : String) : dropRoot (single label).labels = if label = "" then [] else [label] := by
  simp only [single, dropRoot, List.getLast?_singleton, Option.some.injEq, List.dropLast_singleton]

lemma encodable_single (h : (Text.Utf8.encode label).length ≤ 63) : (single label).Encodable := by
  intro label' hl
  rw [dropRoot_single] at hl
  split at hl
  · contradiction
  · rw [List.mem_singleton.mp hl]
    exact ⟨‹_›, h⟩

lemma length_literalForm_single (h : (Text.Utf8.encode label).length ≤ 63) :
    (literalForm (single label).labels).length ≤ 65 := by
  rw [literalForm, dropRoot_single]
  split
  · simp
  · simp only [List.flatMap_singleton, literal, List.length_append, List.length_cons, List.length_nil]
    omega

end DomainLocator.Dns.Name

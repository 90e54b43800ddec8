import DomainLocator.Dns.Name.Compression
import DomainLocator.Proofs.Dns.NameDecoding
import DomainLocator.Text.Utf8.Lemmas

namespace DomainLocator.Dns

namespace Name

variable {bs cs : Array UInt8} {buf : Buffer} {pos past target : Nat} {label : String} {rest labels : List String}

def dropRoot (labels : List String) : List String :=
  if labels.getLast? = some "" then labels.dropLast else labels

def canonical (n : Name) : Name :=
  ⟨dropRoot n.labels⟩

lemma dropRoot_cons (h : label ≠ "") : dropRoot (label :: rest) = label :: dropRoot rest := by
  cases rest with
  | nil => simp [dropRoot, h]
  | cons next rest =>
    simp only [dropRoot, List.getLast?_cons_cons, List.dropLast_cons_cons]
    split <;> rfl

def Stands (bs : Array UInt8) (pos : Nat) (labels : List String) (past : Nat) : Prop :=
  Spells bs pos ((dropRoot labels).map Text.Utf8.encode) past

def literal (label : String) : Octets :=
  UInt8.ofNat (Text.Utf8.encode label).length :: Text.Utf8.encode label

lemma encode_ne_nil (h : label ≠ "") : Text.Utf8.encode label ≠ [] := by
  intro he
  apply h
  rw [← Text.Utf8.decodeLossy_encode label, he]
  simp [Text.Utf8.decodeLossy]

lemma Spells.lt_size {octets : List Octets} (h : Spells bs pos octets past) : pos < bs.size := by
  have hp : ∀ {part : Part}, part.StandsAt bs pos → pos < bs.size := by
    intro part hs
    have := List.length_pos_iff.mpr part.octets_ne_nil
    have := hs.size_le
    omega
  cases h with
  | root h => exact hp h
  | label h _ => exact hp h
  | pointer h _ _ => exact hp h

lemma Spells.lt_past {octets : List Octets} (h : Spells bs pos octets past) : pos < past := by
  induction h with
  | root _ => omega
  | label _ _ ih => omega
  | pointer _ _ _ _ => omega

lemma Spells.past_le_size {octets : List Octets} (h : Spells bs pos octets past) : past ≤ bs.size := by
  induction h with
  | root h => exact h.size_le
  | label _ _ ih => exact ih
  | pointer h _ _ _ => exact h.size_le

namespace Stands

lemma nil (h : HoldsAt bs pos [0]) : Stands bs pos [] (pos + 1) :=
  Spells.root ⟨trivial, h⟩

lemma root (h : HoldsAt bs pos [0]) : Stands bs pos [""] (pos + 1) :=
  Spells.root ⟨trivial, h⟩

lemma cons (hl : label ≠ "") (hm : (Text.Utf8.encode label).length ≤ maxLabel)
    (h : HoldsAt bs pos (literal label))
    (hs : Stands bs (pos + 1 + (Text.Utf8.encode label).length) rest past) :
    Stands bs pos (label :: rest) past := by
  rw [Stands, dropRoot_cons hl]
  exact Spells.label ⟨⟨List.length_pos_iff.mpr (encode_ne_nil hl), hm⟩, h⟩ hs

lemma pointer (ht : target ≤ Writer.maxPointer) (h : HoldsAt bs pos (Octets.bigEndian 2 (0xc000 + target)))
    (hs : Stands bs target labels past) : Stands bs pos labels (pos + 2) :=
  Spells.pointer ⟨Nat.lt_succ_of_le ht, h⟩ (Spells.lt_size hs) hs

lemma mono (hc : Continues bs cs) (h : Stands bs pos labels past) : Stands cs pos labels past :=
  Spells.mono hc h

lemma decode (h : Stands buf.toArray pos labels past) : decode buf pos = .ok (canonical ⟨labels⟩, past) := by
  rw [decode_of_spells h, canonical, List.map_map]
  simp [Function.comp_def]

end Stands

def InPlace (bs : Array UInt8) (suffix : List String) (offset : Nat) : Prop :=
  offset ≤ Writer.maxPointer ∧ ∃ past, Stands bs offset suffix past

lemma InPlace.mono (hc : Continues bs cs) {suffix : List String} {offset : Nat} (h : InPlace bs suffix offset) :
    InPlace cs suffix offset := by
  obtain ⟨hm, past, hs⟩ := h
  exact ⟨hm, past, hs.mono hc⟩

end Name

namespace Writer

variable {w w' : Writer} {suffix : List String} {offset : Nat}

/-- Every suffix in the table can be read where the table says. -/
def Faithful (w : Writer) : Prop :=
  ∀ suffix offset, w.suffixes[suffix]? = some offset → Name.InPlace w.octets suffix offset

lemma faithful_empty : Faithful {} := by
  intro suffix offset h
  simp at h

lemma Faithful.append (h : w.Faithful) (bs : Octets) : (w.append bs).Faithful := by
  intro suffix offset hs
  exact (h suffix offset hs).mono (.append_octets ..)

lemma getElem?_note (w : Writer) (noted suffix : List String) : (w.note noted).suffixes[suffix]? =
    if suffix = noted ∧ w.octets.size ≤ maxPointer then some w.octets.size else w.suffixes[suffix]? := by
  rw [note]
  by_cases hm : w.octets.size ≤ maxPointer
  · rw [if_pos hm, Std.HashMap.getElem?_insert]
    simp only [beq_iff_eq, hm, and_true, @eq_comm _ suffix]
  · rw [if_neg hm, if_neg fun h => hm h.2]

lemma suffixes_note {noted : List String} (h : (w.note noted).suffixes[suffix]? = some offset) :
    w.suffixes[suffix]? = some offset ∨
      suffix = noted ∧ offset = w.octets.size ∧ w.octets.size ≤ maxPointer := by
  rw [getElem?_note] at h
  split at h
  · rename_i hm
    cases h
    exact .inr ⟨hm.1, rfl, hm.2⟩
  · exact .inl h

end Writer

namespace Name

variable {w w' : Writer} {n : Name} {compress : Bool} {label : String} {rest labels : List String}

inductive Writes (compress : Bool) : List String → Writer → Writer → Prop
  | nil {w : Writer} : Writes compress [] w (w.append [0])
  | root {w : Writer} : Writes compress [""] w (w.append [0])
  | pointer {label : String} {rest : List String} {w : Writer} {target : Nat} : compress = true → label ≠ "" →
      w.suffixes[label :: rest]? = some target →
      Writes compress (label :: rest) w (w.append (Octets.bigEndian 2 (0xc000 + target)))
  | known {label : String} {rest : List String} {w w' : Writer} {target : Nat} : compress = false → label ≠ "" →
      (Text.Utf8.encode label).length ≤ maxLabel → w.suffixes[label :: rest]? = some target →
      Writes compress rest (w.append (literal label)) w' → Writes compress (label :: rest) w w'
  | fresh {label : String} {rest : List String} {w w' : Writer} : label ≠ "" →
      (Text.Utf8.encode label).length ≤ maxLabel → w.suffixes[label :: rest]? = none →
      Writes compress rest ((w.note (label :: rest)).append (literal label)) w' → Writes compress (label :: rest) w w'

lemma writes_of_writeLabels (h : writeLabels n compress labels w = .ok w') : Writes compress labels w w' := by
  induction labels generalizing w with
  | nil =>
    cases h
    exact .nil
  | cons label rest ih =>
    rw [writeLabels] at h
    split at h
    · split at h
      · cases h
        subst label rest
        exact .root
      · contradiction
    split at h
    · contradiction
    have hl : label ≠ "" := ‹_›
    have hm : (Text.Utf8.encode label).length ≤ maxLabel := Nat.le_of_not_lt ‹_›
    split at h
    · rename_i target ht
      split at h
      · cases h
        exact .pointer ‹_› hl ht
      · exact .known (Bool.eq_false_iff.mpr ‹_›) hl hm ht (ih h)
    · exact .fresh hl hm ‹_› (ih h)

structure Wrote (labels : List String) (w w' : Writer) : Prop where
  continues : Continues w.octets w'.octets
  stands : Stands w'.octets w.octets.size labels w'.octets.size
  suffixes : ∀ suffix offset, w'.suffixes[suffix]? = some offset →
    w.suffixes[suffix]? = some offset ∨ InPlace w'.octets suffix offset

lemma wrote_append {bs : Octets} {past : Nat} (h : Stands (w.octets ++ bs) w.octets.size labels past)
    (hp : past = w.octets.size + bs.length) : Wrote labels w (w.append bs) := by
  refine ⟨.append_octets .., ?_, fun _ _ hs => .inl hs⟩
  rwa [hp, ← size_append_octets] at h

lemma wrote_literal {v : Writer} (hl : label ≠ "") (hm : (Text.Utf8.encode label).length ≤ maxLabel)
    (ho : v.octets = w.octets)
    (hn : ∀ suffix offset, v.suffixes[suffix]? = some offset → w.suffixes[suffix]? = some offset ∨
      suffix = label :: rest ∧ offset = w.octets.size ∧ w.octets.size ≤ Writer.maxPointer)
    (h : Wrote rest (v.append (literal label)) w') : Wrote (label :: rest) w w' := by
  have ho : (v.append (literal label)).octets = w.octets ++ literal label := by rw [Writer.octets_append, ho]
  have hc : Continues w.octets w'.octets := .trans (ho ▸ .append_octets ..) h.continues
  have hs : Stands w'.octets w.octets.size (label :: rest) w'.octets.size := by
    apply Stands.cons hl hm
    · exact .mono h.continues (ho ▸ HoldsAt.at_end ..)
    · have hsize : (v.append (literal label)).octets.size =
          w.octets.size + 1 + (Text.Utf8.encode label).length := by
        rw [ho, size_append_octets, literal, List.length_cons]
        omega
      exact hsize ▸ h.stands
  refine ⟨hc, hs, ?_⟩
  intro suffix offset hso
  rcases h.suffixes suffix offset hso with hso | hin
  · rcases hn suffix offset hso with hso | ⟨rfl, rfl, hle⟩
    · exact .inl hso
    · exact .inr ⟨hle, _, hs⟩
  · exact .inr hin

/-- Only suffixes that are no longer than what is left to write are looked up, so the ones noted for the
name itself need not be in place yet. -/
lemma Writes.wrote (h : Writes compress labels w w')
    (hw : ∀ suffix offset, suffix.length ≤ labels.length → w.suffixes[suffix]? = some offset →
      InPlace w.octets suffix offset) : Wrote labels w w' := by
  induction h with
  | nil => exact wrote_append (.nil (HoldsAt.at_end ..)) rfl
  | root => exact wrote_append (.root (HoldsAt.at_end ..)) rfl
  | pointer _ _ ht =>
    obtain ⟨hle, past, hs⟩ := hw _ _ (Nat.le_refl _) ht
    exact wrote_append (.pointer hle (HoldsAt.at_end ..) (hs.mono (.append_octets ..))) rfl
  | known _ hl hm _ _ ih =>
    refine wrote_literal hl hm rfl (fun _ _ hs => .inl hs) (ih ?_)
    intro suffix offset hlen hs
    exact (hw suffix offset (Nat.le_succ_of_le hlen) hs).mono (.append_octets ..)
  | fresh hl hm _ _ ih =>
    refine wrote_literal hl hm (Writer.octets_note ..) (fun _ _ hs => Writer.suffixes_note hs) (ih ?_)
    intro suffix offset hlen hs
    rcases Writer.suffixes_note hs with hs | ⟨rfl, _⟩
    · apply (hw suffix offset (Nat.le_succ_of_le hlen) hs).mono
      simp [Continues]
    · rw [List.length_cons] at hlen
      omega

lemma write_wrote (hw : w.Faithful) (h : n.write compress w = .ok w') : Wrote n.labels w w' :=
  (writes_of_writeLabels h).wrote fun suffix offset _ hs => hw suffix offset hs

lemma write_faithful (hw : w.Faithful) (h : n.write compress w = .ok w') : w'.Faithful := by
  intro suffix offset hs
  have hn := write_wrote hw h
  rcases hn.suffixes suffix offset hs with hs | hin
  · exact (hw suffix offset hs).mono hn.continues
  · exact hin

lemma added_literal {bs : Array UInt8} {v : Writer} (hl : label ≠ "")
    (hm : (Text.Utf8.encode label).length ≤ maxLabel) (ho : v.octets = w.octets)
    (h : ∃ added : Octets, w'.octets = (v.append (literal label)).octets ++ added ∧
      ∀ pos, HoldsAt bs pos added → Stands bs pos rest (pos + added.length)) :
    ∃ added : Octets, w'.octets = w.octets ++ added ∧
      ∀ pos, HoldsAt bs pos added → Stands bs pos (label :: rest) (pos + added.length) := by
  obtain ⟨added, ha, hs⟩ := h
  refine ⟨literal label ++ added, ?_, ?_⟩
  · rw [ha, Writer.octets_append, ho, append_octets_append]
  · intro pos hh
    obtain ⟨hlit, hrest⟩ := HoldsAt.append_iff.mp hh
    have hsize : pos + (literal label).length = pos + 1 + (Text.Utf8.encode label).length := by
      rw [literal, List.length_cons]
      omega
    rw [List.length_append, ← Nat.add_assoc]
    rw [hsize] at hrest ⊢
    exact .cons hl hm hlit (hs _ hrest)

/-- The octets that a write adds are a name wherever they stand, as its pointers lead to what was written
before and never to the name itself. -/
lemma Writes.added {bs : Array UInt8} (h : Writes compress labels w w')
    (hw : ∀ suffix offset, suffix.length ≤ labels.length → w.suffixes[suffix]? = some offset →
      InPlace bs suffix offset) : ∃ added : Octets, w'.octets = w.octets ++ added ∧
    ∀ pos, HoldsAt bs pos added → Stands bs pos labels (pos + added.length) := by
  induction h with
  | nil => exact ⟨[0], rfl, fun _ => .nil⟩
  | root => exact ⟨[0], rfl, fun _ => .root⟩
  | pointer _ _ ht =>
    obtain ⟨hle, past, hs⟩ := hw _ _ (Nat.le_refl _) ht
    exact ⟨_, rfl, fun pos hh => .pointer hle hh hs⟩
  | known _ hl hm _ _ ih =>
    refine added_literal hl hm rfl (ih ?_)
    intro suffix offset hlen
    exact hw suffix offset (Nat.le_succ_of_le hlen)
  | fresh hl hm _ _ ih =>
    refine added_literal hl hm (Writer.octets_note ..) (ih ?_)
    intro suffix offset hlen hs
    rcases Writer.suffixes_note hs with hs | ⟨rfl, _⟩
    · exact hw suffix offset (Nat.le_succ_of_le hlen) hs
    · rw [List.length_cons] at hlen
      omega

lemma write_added {bs : Array UInt8} (hw : w.Faithful) (hc : Continues w.octets bs)
    (h : n.write compress w = .ok w') : ∃ added : Octets, w'.octets = w.octets ++ added ∧
    ∀ pos, HoldsAt bs pos added → Stands bs pos n.labels (pos + added.length) :=
  (writes_of_writeLabels h).added fun suffix offset _ hs => (hw suffix offset hs).mono hc

structure Placement where
  name : Name
  start : Nat
  size : Nat

inductive Written : List Placement → Writer → Prop
  | empty : Written [] {}
  | append {placed : List Placement} {w : Writer} (bs : Octets) : Written placed w → Written placed (w.append bs)
  | name {placed : List Placement} {n : Name} {compress : Bool} {w w' : Writer} :
      Written placed w → n.write compress w = .ok w' →
      Written (⟨n, w.octets.size, w'.octets.size - w.octets.size⟩ :: placed) w'

namespace Written

variable {placed : List Placement} {p : Placement}

lemma faithful (h : Written placed w) : w.Faithful := by
  induction h with
  | empty => exact Writer.faithful_empty
  | append bs _ ih => exact ih.append bs
  | name _ hn ih => exact write_faithful ih hn

lemma stands (h : Written placed w) (hp : p ∈ placed) :
    Stands w.octets p.start p.name.labels (p.start + p.size) := by
  induction h with
  | empty => contradiction
  | append bs _ ih => exact (ih hp).mono (.append_octets ..)
  | name hw hn ih =>
    have hn := write_wrote hw.faithful hn
    rcases List.mem_cons.mp hp with rfl | hp
    · have := hn.continues.size_le
      rw [Nat.add_sub_cancel' this]
      exact hn.stands
    · exact (ih hp).mono hn.continues

end Written

theorem names_stay_readable {placed : List Placement} {w : Writer} (h : Written placed w) :
    (∀ p ∈ placed, decode (.ofArray w.octets) p.start = .ok (p.name.canonical, p.start + p.size)) ∧
    ∀ suffix offset, w.suffixes[suffix]? = some offset → offset ≤ Writer.maxPointer ∧
      ∃ past, decode (.ofArray w.octets) offset = .ok (canonical ⟨suffix⟩, past) := by
  constructor
  · intro p hp
    have hs := h.stands hp
    rw [← Buffer.toArray_ofArray w.octets] at hs
    exact hs.decode
  · intro suffix offset hs
    obtain ⟨hm, past, hs⟩ := h.faithful suffix offset hs
    rw [← Buffer.toArray_ofArray w.octets] at hs
    exact ⟨hm, past, hs.decode⟩

def sharedSuffix : Writer where
  octets := #[2, 97, 98, 1, 99, 0, 7, 1, 100, 0xc0, 3]
  suffixes := (((∅ : SuffixTable).insert ["ab", "c", ""] 0).insert ["c", ""] 3).insert ["d", "c", ""] 7

theorem shared_suffix_stays_readable :
    Written [⟨⟨["d", "c", ""]⟩, 7, 4⟩, ⟨⟨["ab", "c", ""]⟩, 0, 6⟩] sharedSuffix ∧
      decode (.ofArray sharedSuffix.octets) 7 = .ok (⟨["d", "c"]⟩, 11) ∧
      decode (.ofArray sharedSuffix.octets) 0 = .ok (⟨["ab", "c"]⟩, 6) ∧
      ∃ past, decode (.ofArray sharedSuffix.octets) 3 = .ok (⟨["c"]⟩, past) := by
  have hfirst : write true ⟨["ab", "c", ""]⟩ {} =
      .ok ⟨#[2, 97, 98, 1, 99, 0], ((∅ : SuffixTable).insert ["ab", "c", ""] 0).insert ["c", ""] 3⟩ := by cbv
  have hsecond : write true ⟨["d", "c", ""]⟩ (Writer.append ⟨#[2, 97, 98, 1, 99, 0],
      ((∅ : SuffixTable).insert ["ab", "c", ""] 0).insert ["c", ""] 3⟩ [7]) = .ok sharedSuffix := by cbv
  have h : Written [⟨⟨["d", "c", ""]⟩, 7, 4⟩, ⟨⟨["ab", "c", ""]⟩, 0, 6⟩] sharedSuffix :=
    .name (.append [7] (.name .empty hfirst)) hsecond
  obtain ⟨hnames, hsuffixes⟩ := names_stay_readable h
  exact ⟨h, hnames _ List.mem_cons_self, hnames _ (.tail _ (.head _)), (hsuffixes ["c", ""] 3 (by cbv)).2⟩

end Name

end DomainLocator.Dns

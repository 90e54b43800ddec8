import DomainLocator.Proofs.Dns.NameEncoding
import Mathlib.Order.Lattice.Nat

/-! How names share what they have in common: the table gives the first place where each suffix was spelled out, and a
name is spelled out as far as its longest suffix in the table. -/

namespace DomainLocator.Dns

lemma Writer.getElem?_note_of_ne {w : Writer} {noted suffix : List String} (h : suffix ≠ noted) :
    (w.note noted).suffixes[suffix]? = w.suffixes[suffix]? := by
  rw [getElem?_note, if_neg fun hn => h hn.1]

namespace Name

variable {w w' v : Writer} {n : Name} {compress : Bool} {label : String}
  {labels spelled rest suffix : List String} {ending : Octets} {start offset : Nat}

inductive Ending (compress : Bool) (table : SuffixTable) : List String → Octets → Prop
  | nil : Ending compress table [] [0]
  | root : Ending compress table [""] [0]
  | pointer {label : String} {rest : List String} {target : Nat} : compress = true → label ≠ "" →
      table[label :: rest]? = some target →
      Ending compress table (label :: rest) (Octets.bigEndian 2 (0xc000 + target))

/-- Where `spelled` stands at `start` and `rest` comes after it, the suffix begins with a label of `spelled`, which
stands at `offset`. -/
def Begins (spelled rest : List String) (start : Nat) (suffix : List String) (offset : Nat) : Prop :=
  ∃ before tail, spelled = before ++ tail ∧ tail ≠ [] ∧ suffix = tail ++ rest ∧
    offset = start + (before.flatMap literal).length

lemma not_begins_nil : ¬ Begins [] rest start suffix offset := by
  rintro ⟨before, tail, h, ht, -⟩
  exact ht (List.append_eq_nil_iff.mp h.symm).2

lemma begins_cons_iff : Begins (label :: spelled) rest start suffix offset ↔
    suffix = label :: spelled ++ rest ∧ offset = start ∨
      Begins spelled rest (start + (literal label).length) suffix offset := by
  constructor
  · rintro ⟨before, tail, h, ht, rfl, rfl⟩
    cases before with
    | nil => exact .inl ⟨by rw [h, List.nil_append], rfl⟩
    | cons first before =>
      obtain ⟨rfl, rfl⟩ := List.cons.inj h
      refine .inr ⟨before, tail, rfl, ht, rfl, ?_⟩
      rw [List.flatMap_cons, List.length_append, Nat.add_assoc]
  · rintro (⟨rfl, rfl⟩ | ⟨before, tail, rfl, ht, rfl, rfl⟩)
    · exact ⟨[], label :: spelled, rfl, by simp, rfl, rfl⟩
    · refine ⟨label :: before, tail, rfl, ht, rfl, ?_⟩
      rw [List.flatMap_cons, List.length_append, Nat.add_assoc]

namespace Begins

lemma length_le (h : Begins spelled rest start suffix offset) : suffix.length ≤ (spelled ++ rest).length := by
  obtain ⟨before, tail, rfl, -, rfl, -⟩ := h
  simp only [List.length_append]
  omega

lemma start_le (h : Begins spelled rest start suffix offset) : start ≤ offset := by
  obtain ⟨_, _, -, -, -, rfl⟩ := h
  exact Nat.le_add_right ..

lemma unique {offset' : Nat} (h : Begins spelled rest start suffix offset)
    (h' : Begins spelled rest start suffix offset') : offset = offset' := by
  obtain ⟨before, tail, rfl, -, rfl, rfl⟩ := h
  obtain ⟨before', tail', hs, -, ht, rfl⟩ := h'
  obtain rfl := List.append_cancel_right ht
  obtain rfl := List.append_cancel_right hs
  rfl

end Begins

structure Spelling (compress : Bool) (labels : List String) (w w' : Writer) (spelled rest : List String)
    (ending : Octets) : Prop where
  split : labels = spelled ++ rest
  octets : w'.octets = w.octets ++ (spelled.flatMap literal ++ ending)
  ending : Ending compress w.suffixes rest ending
  nonempty : "" ∉ spelled
  longest : compress = true → ∀ suffix, suffix <:+ labels → rest.length < suffix.length → w.suffixes[suffix]? = none
  table : ∀ suffix offset, w'.suffixes[suffix]? = some offset ↔ w.suffixes[suffix]? = some offset ∨
    w.suffixes[suffix]? = none ∧ offset ≤ Writer.maxPointer ∧ Begins spelled rest w.octets.size suffix offset

namespace Spelling

lemma nil (h : Ending compress w.suffixes labels ending) :
    Spelling compress labels w (w.append ending) [] labels ending := by
  refine ⟨rfl, rfl, h, List.not_mem_nil, ?_, ?_⟩
  · intro _ suffix hs hlt
    exact absurd hs.length_le (Nat.not_le_of_lt hlt)
  · intro suffix offset
    simp only [not_begins_nil, and_false, or_false]
    rfl

lemma cons (hl : label ≠ "") (ho : v.octets = w.octets)
    (hagree : ∀ suffix, suffix ≠ label :: labels → v.suffixes[suffix]? = w.suffixes[suffix]?)
    (hself : ∀ offset, v.suffixes[label :: labels]? = some offset ↔ w.suffixes[label :: labels]? = some offset ∨
      w.suffixes[label :: labels]? = none ∧ offset ≤ Writer.maxPointer ∧ offset = w.octets.size)
    (hnone : compress = true → w.suffixes[label :: labels]? = none)
    (h : Spelling compress labels (v.append (literal label)) w' spelled rest ending) :
    Spelling compress (label :: labels) w w' (label :: spelled) rest ending := by
  have hlabels := h.split
  have hshort : ∀ {suffix : List String}, suffix.length ≤ labels.length → suffix ≠ label :: labels := by
    rintro _ hle rfl
    exact Nat.not_succ_le_self _ hle
  have hsize : (v.append (literal label)).octets.size = w.octets.size + (literal label).length := by
    rw [Writer.octets_append, ho, size_append_octets]
  refine ⟨congrArg _ hlabels, ?_, ?_, ?_, ?_, ?_⟩
  · rw [h.octets, Writer.octets_append, ho, List.flatMap_cons, append_octets_append, List.append_assoc]
  · have hending := h.ending
    cases hending with
    | nil => exact .nil
    | root => exact .root
    | pointer hc hne ht =>
      refine .pointer hc hne ?_
      rw [← ht, Writer.suffixes_append, hagree _ (hshort ?_)]
      rw [hlabels, List.length_append]
      exact Nat.le_add_left ..
  · rw [List.mem_cons, not_or]
    exact ⟨hl.symm, h.nonempty⟩
  · intro hc suffix hs hlt
    rcases List.suffix_cons_iff.mp hs with rfl | hs
    · exact hnone hc
    · rw [← hagree _ (hshort hs.length_le)]
      exact h.longest hc suffix hs hlt
  · intro suffix offset
    rw [h.table, begins_cons_iff, hsize, Writer.suffixes_append]
    by_cases hs : suffix = label :: labels
    · have hn : ∀ {start : Nat}, ¬ Begins spelled rest start suffix offset := by
        intro start hb
        exact hshort (hlabels ▸ hb.length_le) hs
      subst hs
      simp only [hn, and_false, or_false, hself, List.cons_append, ← hlabels, true_and]
    · have hne : suffix ≠ label :: spelled ++ rest := by rwa [List.cons_append, ← hlabels]
      simp only [hagree _ hs, hne, false_and, false_or]

end Spelling

lemma Writes.exists_spelling (h : Writes compress labels w w') :
    ∃ spelled rest ending, Spelling compress labels w w' spelled rest ending := by
  induction h with
  | nil => exact ⟨[], [], [0], .nil .nil⟩
  | root => exact ⟨[], [""], [0], .nil .root⟩
  | pointer hc hl ht => exact ⟨[], _, _, .nil (.pointer hc hl ht)⟩
  | known hc hl _ ht _ ih =>
    obtain ⟨spelled, rest, ending, hs⟩ := ih
    refine ⟨_, rest, ending, .cons hl rfl (fun _ _ => rfl) ?_ ?_ hs⟩
    · simp [ht]
    · simp [hc]
  | fresh hl _ hn _ ih =>
    obtain ⟨spelled, rest, ending, hs⟩ := ih
    refine ⟨_, rest, ending, .cons hl (Writer.octets_note ..) (fun _ => Writer.getElem?_note_of_ne) ?_ (fun _ => hn) hs⟩
    intro offset
    rw [Writer.getElem?_note, hn]
    split <;> grind

lemma mem_dropRoot (hm : label ∈ labels) (hl : label ≠ "") : label ∈ dropRoot labels := by
  rw [dropRoot]
  split
  · rename_i hlast
    rw [← List.dropLast_append_getLast? "" hlast, List.mem_append, List.mem_singleton] at hm
    exact hm.resolve_right hl
  · exact hm

lemma dropRoot_concat_root (labels : List String) : dropRoot (labels ++ [""]) = labels := by
  rw [dropRoot, List.getLast?_concat, if_pos rfl, List.dropLast_concat]

lemma Ending.eq_nil_of_root {table : SuffixTable} (h : Ending compress table ("" :: rest) ending) : rest = [] := by
  cases h with
  | root => rfl
  | pointer _ hl _ => exact absurd rfl hl

lemma Ending.not_literal_prefix (h : Ending compress w.suffixes rest ending) (hw : w.Faithful) (hl : label ≠ "")
    (hm : (Text.Utf8.encode label).length ≤ 63) : ¬ literal label <+: ending := by
  -- The first octet of a label is neither zero nor that of a pointer.
  have hpos := List.length_pos_iff.mpr (encode_ne_nil hl)
  have hlength : (UInt8.ofNat (Text.Utf8.encode label).length).toNat = (Text.Utf8.encode label).length :=
    UInt8.toNat_ofNat_of_lt' (Nat.lt_of_le_of_lt hm (by decide))
  have hroot : ¬ literal label <+: [0] := by
    rw [literal, List.cons_prefix_cons]
    rintro ⟨h0, -⟩
    rw [h0] at hlength
    exact absurd hlength (Nat.ne_of_lt hpos)
  cases h with
  | nil => exact hroot
  | root => exact hroot
  | @pointer _ _ target _ _ ht =>
    have hle : target ≤ 0x3fff := (hw _ _ ht).1
    have hfirst : Octets.bigEndian 2 (0xc000 + target) =
        [UInt8.ofNat ((0xc000 + target) / 256), UInt8.ofNat (0xc000 + target)] := rfl
    rw [literal, hfirst, List.cons_prefix_cons]
    rintro ⟨heq, -⟩
    rw [heq, UInt8.toNat_ofNat'] at hlength
    omega

namespace Placement

variable {p : Placement} {bs cs : Array UInt8}

def octets (p : Placement) (bs : Array UInt8) : Octets :=
  (bs.extract p.start (p.start + p.size)).toList

def SpellsOut (p : Placement) (bs : Array UInt8) (suffix : List String) (offset : Nat) : Prop :=
  ∃ before label rest, suffix = label :: rest ∧ label ≠ "" ∧ p.name.labels = before ++ suffix ∧
    (before ++ [label]).flatMap literal <+: p.octets bs ∧ offset = p.start + (before.flatMap literal).length

lemma length_octets (hp : p.start + p.size ≤ bs.size) : (p.octets bs).length = p.size := by
  rw [octets, Array.length_toList, Array.size_extract]
  omega

lemma octets_of_continues (hc : Continues bs cs) (hp : p.start + p.size ≤ bs.size) : p.octets cs = p.octets bs := by
  obtain ⟨added, rfl⟩ := hc.exists_append
  rw [octets, octets, Array.toList_extract, Array.toList_extract, Array.toList_appendList]
  simp only [List.extract_eq_take_drop, Nat.add_sub_cancel_left]
  rw [List.drop_append_of_le_length (by simp; omega), List.take_append_of_le_length (by simp; omega)]

lemma octets_of_append {added : Octets} (hs : p.start = bs.size) (hsize : p.size = added.length) :
    p.octets (bs ++ added) = added := by
  rw [octets, Array.toList_extract, Array.toList_appendList, List.extract_eq_take_drop, hs, hsize]
  simp

lemma spellsOut_of_continues (hc : Continues bs cs) (hp : p.start + p.size ≤ bs.size) :
    p.SpellsOut cs suffix offset ↔ p.SpellsOut bs suffix offset := by
  rw [SpellsOut, octets_of_continues hc hp, SpellsOut]

lemma SpellsOut.lt_size (h : p.SpellsOut bs suffix offset) (hp : p.start + p.size ≤ bs.size) : offset < bs.size := by
  obtain ⟨before, label, rest, -, -, -, hprefix, rfl⟩ := h
  have hle := hprefix.length_le
  rw [length_octets hp, List.flatMap_append, List.flatMap_singleton, List.length_append, literal, List.length_cons] at hle
  omega

end Placement

lemma Spelling.spellsOut_iff {p : Placement} (h : Spelling compress p.name.labels w w' spelled rest ending)
    (hw : w.Faithful) (hn : p.name.Encodable) (hp : p.octets w'.octets = spelled.flatMap literal ++ ending) :
    p.SpellsOut w'.octets suffix offset ↔ Begins spelled rest p.start suffix offset := by
  have hsplit := h.split
  rw [Placement.SpellsOut, hp]
  constructor
  · rintro ⟨before, label, left, rfl, hl, hlabels, hprefix, rfl⟩
    rw [hsplit, List.append_cons, eq_comm, List.append_eq_append_iff] at hlabels
    rcases hlabels with ⟨more, rfl, rfl⟩ | ⟨extra, hmore, hrest⟩
    · exact ⟨before, label :: more, by simp, by simp, by simp, rfl⟩
    cases extra with
    | nil =>
      obtain rfl : left = rest := hrest.symm
      rw [List.append_nil] at hmore
      exact ⟨before, [label], hmore.symm, by simp, rfl, rfl⟩
    | cons first extra =>
      -- A label of the rest would have to stand where the ending does.
      rw [hmore, List.flatMap_append, List.prefix_append_right_inj, List.flatMap_cons] at hprefix
      have hfirst : first ≠ "" := by
        rintro rfl
        have hnil := Ending.eq_nil_of_root (hrest ▸ h.ending)
        rw [(List.append_eq_nil_iff.mp hnil).1] at hmore
        exact hl (List.cons.inj (List.append_inj' hmore rfl).2).1
      have hm : first ∈ p.name.labels := by
        rw [hsplit, hrest]
        simp
      have hlength := (hn first (mem_dropRoot hm hfirst)).2
      exact absurd ((List.prefix_append ..).trans hprefix) (h.ending.not_literal_prefix hw hfirst hlength)
  · rintro ⟨before, tail, rfl, ht, rfl, rfl⟩
    obtain ⟨label, tail, rfl⟩ := List.exists_cons_of_ne_nil ht
    refine ⟨before, label, tail ++ rest, rfl, ?_, by rw [hsplit, List.append_assoc], ?_, rfl⟩
    · rintro rfl
      exact h.nonempty (by simp)
    · simp

def SpelledOutAt (placed : List Placement) (bs : Array UInt8) (suffix : List String) : Set Nat :=
  {offset | ∃ p ∈ placed, p.SpellsOut bs suffix offset}

/-- The table has the first offset of all, if a pointer can lead there. -/
def HoldsFirst (placed : List Placement) (w : Writer) : Prop :=
  ∀ suffix offset, w.suffixes[suffix]? = some offset ↔
    offset ≤ Writer.maxPointer ∧ IsLeast (SpelledOutAt placed w.octets suffix) offset

variable {placed : List Placement}

lemma HoldsFirst.append (h : HoldsFirst placed w) (hp : ∀ p ∈ placed, p.start + p.size ≤ w.octets.size) (bs : Octets) :
    HoldsFirst placed (w.append bs) := by
  intro suffix offset
  have hset : SpelledOutAt placed (w.append bs).octets suffix = SpelledOutAt placed w.octets suffix := by
    ext offset
    exact exists_congr fun p => and_congr_right fun hm =>
      Placement.spellsOut_of_continues (.append_octets ..) (hp p hm)
  rw [hset]
  exact h suffix offset

lemma isLeast_union_iff {known new : Set Nat} {size first : Nat} {old : Option Nat}
    (hold : ∀ first, old = some first ↔ first ≤ Writer.maxPointer ∧ IsLeast known first)
    (hknown : ∀ q ∈ known, q < size) (hnew : ∀ q ∈ new, size ≤ q) (hone : ∀ q ∈ new, ∀ q' ∈ new, q = q') :
    first ≤ Writer.maxPointer ∧ IsLeast (known ∪ new) first ↔
      old = some first ∨ old = none ∧ first ≤ Writer.maxPointer ∧ first ∈ new := by
  constructor
  · rintro ⟨hmax, hmem, hleast⟩
    rcases hmem with hmem | hmem
    · exact .inl ((hold first).mpr ⟨hmax, hmem, fun q hq => hleast (.inl hq)⟩)
    · refine .inr ⟨?_, hmax, hmem⟩
      cases old with
      | none => rfl
      | some q =>
        have hq := ((hold q).mp rfl).2.1
        exact absurd (hleast (.inl hq)) (Nat.not_le_of_lt (Nat.lt_of_lt_of_le (hknown q hq) (hnew first hmem)))
  · rintro (hold' | ⟨hnone, hmax, hmem⟩)
    · obtain ⟨hmax, hmem, hleast⟩ := (hold first).mp hold'
      refine ⟨hmax, .inl hmem, ?_⟩
      rintro q (hq | hq)
      · exact hleast hq
      · exact Nat.le_of_lt (Nat.lt_of_lt_of_le (hknown first hmem) (hnew q hq))
    · refine ⟨hmax, .inr hmem, ?_⟩
      rintro q (hq | hq)
      · -- The first of the known offsets comes before the new one, so a pointer could lead there too.
        have hlt := Nat.lt_of_lt_of_le (hknown _ (Nat.sInf_mem ⟨q, hq⟩)) (hnew first hmem)
        have hfound := (hold _).mpr ⟨Nat.le_trans (Nat.le_of_lt hlt) hmax, Nat.sInf_mem ⟨q, hq⟩, fun _ => Nat.sInf_le⟩
        rw [hnone] at hfound
        contradiction
      · exact Nat.le_of_eq (hone first hmem q hq)

lemma HoldsFirst.write (h : HoldsFirst placed w) (hp : ∀ p ∈ placed, p.start + p.size ≤ w.octets.size)
    (hw : w.Faithful) (hn : n.write compress w = .ok w') :
    HoldsFirst (⟨n, w.octets.size, w'.octets.size - w.octets.size⟩ :: placed) w' := by
  obtain ⟨spelled, rest, ending, hs⟩ := (writes_of_writeLabels hn).exists_spelling
  let p : Placement := ⟨n, w.octets.size, w'.octets.size - w.octets.size⟩
  have hoctets : p.octets w'.octets = spelled.flatMap literal ++ ending := by
    rw [hs.octets]
    refine Placement.octets_of_append rfl ?_
    simp only [p, hs.octets, size_append_octets, Nat.add_sub_cancel_left]
  have hnew : ∀ suffix offset, p.SpellsOut w'.octets suffix offset ↔
      Begins spelled rest w.octets.size suffix offset := by
    intro suffix offset
    exact Spelling.spellsOut_iff hs hw (encodable_of_write hw hn) hoctets
  have hc : Continues w.octets w'.octets := hs.octets ▸ .append_octets ..
  intro suffix offset
  have hset : SpelledOutAt (p :: placed) w'.octets suffix =
      SpelledOutAt placed w.octets suffix ∪ {offset | Begins spelled rest w.octets.size suffix offset} := by
    ext offset
    have hold : (∃ q ∈ placed, q.SpellsOut w'.octets suffix offset) ↔ ∃ q ∈ placed, q.SpellsOut w.octets suffix offset :=
      exists_congr fun q => and_congr_right fun hm => Placement.spellsOut_of_continues hc (hp q hm)
    rw [SpelledOutAt, Set.mem_ofPred_eq, List.exists_mem_cons_iff, hold, hnew, or_comm]
    rfl
  rw [hset, hs.table, isLeast_union_iff (h suffix)]
  · rfl
  · rintro q ⟨p, hm, hq⟩
    exact hq.lt_size (hp p hm)
  · intro q hq
    exact hq.start_le
  · intro q hq q' hq'
    exact hq.unique hq'

namespace Written

lemma end_le_size (h : Written placed w) : ∀ p ∈ placed, p.start + p.size ≤ w.octets.size :=
  fun _ hp => (h.stands hp).past_le_size

lemma holdsFirst (h : Written placed w) : HoldsFirst placed w := by
  induction h with
  | empty =>
    intro suffix offset
    have hset : SpelledOutAt [] #[] suffix = ∅ := by simp [SpelledOutAt]
    rw [hset]
    simp [IsLeast]
  | append bs hw ih => exact ih.append hw.end_le_size bs
  | name hw hn ih => exact ih.write hw.end_le_size hw.faithful hn

end Written

lemma HoldsFirst.not_root (h : HoldsFirst placed w) (hs : suffix <:+ [""]) : w.suffixes[suffix]? = none := by
  cases hf : w.suffixes[suffix]? with
  | none => rfl
  | some offset =>
    obtain ⟨-, ⟨p, -, before, label, rest, rfl, hl, -⟩, -⟩ := (h suffix offset).mp hf
    rcases List.suffix_cons_iff.mp hs with heq | hnil
    · exact absurd (List.cons.inj heq).1 hl
    · exact absurd (List.suffix_nil.mp hnil) (by simp)

namespace Spelling

lemma octets_of_root (h : Spelling compress labels w w' spelled rest [0]) (hr : rest = [] ∨ rest = [""]) :
    w'.octets = w.octets ++ literalForm labels := by
  have hdrop : dropRoot labels = spelled := by
    rcases hr with rfl | rfl
    · rw [h.split, List.append_nil, dropRoot_eq_self h.nonempty]
    · rw [h.split, dropRoot_concat_root]
  rw [h.octets, literalForm, hdrop]

lemma octets_eq (h : Spelling true labels w w' spelled rest ending) (hw : w.Faithful) (hf : HoldsFirst placed w) :
    (∃ before suffix target, labels = before ++ suffix ∧ w.suffixes[suffix]? = some target ∧
      (∀ longer, longer <:+ labels → suffix.length < longer.length → w.suffixes[longer]? = none) ∧
      target < w.octets.size ∧
      w'.octets = w.octets ++ (before.flatMap literal ++ Octets.bigEndian 2 (0xc000 ||| target))) ∨
    (∀ suffix, suffix <:+ labels → w.suffixes[suffix]? = none) ∧ w'.octets = w.octets ++ literalForm labels := by
  have hroot : rest = [] ∨ rest = [""] → ∀ suffix, suffix <:+ labels → w.suffixes[suffix]? = none := by
    intro hr suffix hs
    by_cases hlt : rest.length < suffix.length
    · exact h.longest rfl suffix hs hlt
    · have hrest : rest <:+ labels := h.split ▸ List.suffix_append ..
      have hsuffix := List.suffix_of_suffix_length_le hs hrest (Nat.le_of_not_lt hlt)
      refine hf.not_root (hsuffix.trans ?_)
      rcases hr with rfl | rfl <;> simp
  cases h.ending with
  | nil => exact .inr ⟨hroot (.inl rfl), h.octets_of_root (.inl rfl)⟩
  | root => exact .inr ⟨hroot (.inr rfl), h.octets_of_root (.inr rfl)⟩
  | @pointer label rest target _ _ ht =>
    obtain ⟨hle, past, hstands⟩ := hw _ _ ht
    have hbits : 0xc000 ||| target = 0xc000 + target :=
      (Nat.two_pow_add_eq_or_of_lt (i := 14) (Nat.lt_succ_of_le hle) 3).symm
    refine .inl ⟨spelled, label :: rest, target, h.split, ht, h.longest rfl, hstands.lt_size, ?_⟩
    rw [hbits]
    exact h.octets

end Spelling

theorem shares_first_and_longest (h : Written placed w) :
    (∀ suffix offset, w.suffixes[suffix]? = some offset ↔
      offset ≤ Writer.maxPointer ∧ IsLeast {start | ∃ p ∈ placed, p.SpellsOut w.octets suffix start} offset) ∧
    (∀ (n : Name) (w' : Writer), n.write true w = .ok w' →
      (∃ before suffix target, n.labels = before ++ suffix ∧ w.suffixes[suffix]? = some target ∧
        (∀ longer, longer <:+ n.labels → suffix.length < longer.length → w.suffixes[longer]? = none) ∧
        target < w.octets.size ∧
        w'.octets = w.octets ++ (before.flatMap literal ++ Octets.bigEndian 2 (0xc000 ||| target))) ∨
      (∀ suffix, suffix <:+ n.labels → w.suffixes[suffix]? = none) ∧ w'.octets = w.octets ++ literalForm n.labels) ∧
    ∀ (n : Name) (compress : Bool) (w' : Writer), n.write compress w = .ok w' →
      w'.octets.size ≤ w.octets.size + (literalForm n.labels).length := by
  refine ⟨h.holdsFirst, ?_, fun n compress w' => size_write⟩
  intro n w' hn
  obtain ⟨spelled, rest, ending, hs⟩ := (writes_of_writeLabels hn).exists_spelling
  exact hs.octets_eq h.faithful h.holdsFirst

theorem longest_of_sharedSuffix :
    Written [⟨⟨["d", "c", ""]⟩, 7, 4⟩, ⟨⟨["ab", "c", ""]⟩, 0, 6⟩] sharedSuffix ∧
      IsLeast {start | ∃ p ∈ [⟨⟨["d", "c", ""]⟩, 7, 4⟩, ⟨⟨["ab", "c", ""]⟩, 0, 6⟩],
        Placement.SpellsOut p sharedSuffix.octets ["c", ""] start} 3 ∧
      ∃ w', write true ⟨["e", "d", "c", ""]⟩ sharedSuffix = .ok w' ∧
        w'.octets = #[2, 97, 98, 1, 99, 0, 7, 1, 100, 0xc0, 3, 1, 101, 0xc0, 7] ∧
        ∃ before suffix target, ["e", "d", "c", ""] = before ++ suffix ∧ sharedSuffix.suffixes[suffix]? = some target ∧
          (∀ longer, longer <:+ ["e", "d", "c", ""] → suffix.length < longer.length →
            sharedSuffix.suffixes[longer]? = none) ∧
          target < sharedSuffix.octets.size ∧
          w'.octets = sharedSuffix.octets ++ (before.flatMap literal ++ Octets.bigEndian 2 (0xc000 ||| target)) := by
  have hfirst : write false ⟨["ab", "c", ""]⟩ {} =
      .ok ⟨#[2, 97, 98, 1, 99, 0], ((∅ : SuffixTable).insert ["ab", "c", ""] 0).insert ["c", ""] 3⟩ := by cbv
  have hsecond : write true ⟨["d", "c", ""]⟩ (Writer.append ⟨#[2, 97, 98, 1, 99, 0],
      ((∅ : SuffixTable).insert ["ab", "c", ""] 0).insert ["c", ""] 3⟩ [7]) = .ok sharedSuffix := by cbv
  have hthird : write true ⟨["e", "d", "c", ""]⟩ sharedSuffix = .ok ⟨#[2, 97, 98, 1, 99, 0, 7, 1, 100, 0xc0, 3, 1, 101, 0xc0, 7],
      sharedSuffix.suffixes.insert ["e", "d", "c", ""] 11⟩ := by cbv
  have hknown : sharedSuffix.suffixes[["c", ""]]? = some 3 := by cbv
  have h : Written [⟨⟨["d", "c", ""]⟩, 7, 4⟩, ⟨⟨["ab", "c", ""]⟩, 0, 6⟩] sharedSuffix :=
    .name (.append [7] (.name .empty hfirst)) hsecond
  obtain ⟨htable, hwrite, -⟩ := shares_first_and_longest h
  refine ⟨h, ((htable ["c", ""] 3).mp hknown).2, _, hthird, rfl, (hwrite _ _ hthird).resolve_right ?_⟩
  rintro ⟨hnone, -⟩
  rw [hnone ["c", ""] (by decide)] at hknown
  contradiction

end Name

end DomainLocator.Dns

import DomainLocator.Dns.Name.Walk
import DomainLocator.Proofs.Buffer
import Mathlib.Data.List.Infix
import Mathlib.Logic.Relation

/-! The grammar of names, as a walk over the octets of a message that keeps no record of where it has been. From any
position the walk spells a name, gets stuck or is endless, and never two of these. -/

namespace DomainLocator.Dns.Name

variable {bs cs : Array UInt8} {buf : Buffer} {pos next past : Nat} {part part' : Part}

def Part.octets : Part → Octets
  | .root => [0]
  | .label octets => UInt8.ofNat octets.length :: octets
  | .pointer target => Octets.bigEndian 2 (0xc000 + target)

def Part.Valid : Part → Prop
  | .root => True
  | .label octets => 0 < octets.length ∧ octets.length ≤ 63
  | .pointer target => target < 0x4000

def Part.StandsAt (bs : Array UInt8) (pos : Nat) (part : Part) : Prop :=
  part.Valid ∧ HoldsAt bs pos part.octets

lemma Part.octets_ne_nil (part : Part) : part.octets ≠ [] := by
  cases part <;> simp [Part.octets, Octets.bigEndian, Octets.littleEndian]

lemma octets_pointer (target : Nat) :
    (Part.pointer target).octets = [UInt8.ofNat ((0xc000 + target) / 256), UInt8.ofNat (0xc000 + target)] :=
  rfl

lemma eq_ofNat_of_toNat {b : UInt8} {n : Nat} (h : b.toNat = n % 256) : b = UInt8.ofNat n := by
  apply UInt8.toNat_inj.mp
  rw [UInt8.toNat_ofNat', h]

lemma standsAt_of_partAt (h : partAt buf pos = .ok part) : part.StandsAt buf.toArray pos := by
  unfold partAt at h
  rw [Buffer.get?_eq, Buffer.get?_eq] at h
  split at h
  · contradiction
  rename_i first hf
  have hlt := first.toNat_lt
  split at h
  · rename_i h0
    cases h
    have : first = 0 := UInt8.toNat_inj.mp h0
    exact ⟨trivial, HoldsAt.cons_iff.mpr ⟨this ▸ hf, HoldsAt.nil⟩⟩
  split at h
  · split at h
    · rename_i hs
      cases h
      obtain ⟨hl, hh⟩ := (Buffer.slice?_eq_some_iff (by omega)).mp hs
      refine ⟨⟨by omega, by omega⟩, HoldsAt.cons_iff.mpr ⟨?_, hh⟩⟩
      rw [hl, UInt8.ofNat_toNat]
      exact hf
    · contradiction
  split at h
  · contradiction
  split at h
  · rename_i second hs
    cases h
    have := second.toNat_lt
    refine ⟨by simp only [Part.Valid]; omega, ?_⟩
    rw [octets_pointer]
    refine HoldsAt.cons_iff.mpr ⟨?_, HoldsAt.cons_iff.mpr ⟨?_, HoldsAt.nil⟩⟩
    · exact hf.trans (congrArg some (eq_ofNat_of_toNat (by omega)))
    · exact hs.trans (congrArg some (eq_ofNat_of_toNat (by omega)))
  · contradiction

lemma partAt_of_standsAt (h : part.StandsAt buf.toArray pos) : partAt buf pos = .ok part := by
  obtain ⟨hv, hh⟩ := h
  unfold partAt
  rw [Buffer.get?_eq, Buffer.get?_eq]
  cases part with
  | root =>
    rw [(HoldsAt.cons_iff.mp hh).1]
    rfl
  | label octets =>
    obtain ⟨hf, hh⟩ := HoldsAt.cons_iff.mp hh
    have hn : (UInt8.ofNat octets.length).toNat = octets.length :=
      UInt8.toNat_ofNat_of_lt' (Nat.lt_of_le_of_lt hv.2 (by decide))
    have hs := (Buffer.slice?_eq_some_iff hv.1).mpr ⟨rfl, hh⟩
    simp only [Part.Valid] at hv
    simp only [hf, hn, hs]
    rw [if_neg (by omega), if_pos (by omega)]
  | pointer target =>
    simp only [Part.Valid] at hv
    rw [octets_pointer] at hh
    obtain ⟨hf, hh⟩ := HoldsAt.cons_iff.mp hh
    obtain ⟨hs, -⟩ := HoldsAt.cons_iff.mp hh
    simp only [hf, hs, UInt8.toNat_ofNat']
    rw [if_neg (by omega), if_neg (by omega), if_neg (by omega)]
    congr 2
    omega

lemma partAt_eq_ok_iff : partAt buf pos = .ok part ↔ part.StandsAt buf.toArray pos :=
  ⟨standsAt_of_partAt, partAt_of_standsAt⟩

lemma Part.StandsAt.size_le (h : part.StandsAt bs pos) : pos + part.octets.length ≤ bs.size :=
  HoldsAt.size_le h.2 part.octets_ne_nil

lemma Part.StandsAt.mono (hc : Continues bs cs) (h : part.StandsAt bs pos) : part.StandsAt cs pos :=
  ⟨h.1, h.2.mono hc⟩

lemma Part.StandsAt.unique (h : part.StandsAt bs pos) (h' : part'.StandsAt bs pos) : part = part' := by
  rw [← Buffer.toArray_ofArray bs, ← partAt_eq_ok_iff] at h h'
  rw [h] at h'
  exact Except.ok.inj h'

inductive Step (bs : Array UInt8) : Nat → Nat → Prop
  | label {pos : Nat} {octets : Octets} :
      (Part.label octets).StandsAt bs pos → Step bs pos (pos + 1 + octets.length)
  | pointer {pos target : Nat} :
      (Part.pointer target).StandsAt bs pos → target < bs.size → Step bs pos target

/-- The walk from a position meets these labels and then a zero octet. `past` is the offset just past the
first pointer met, or past the zero octet if there is none. -/
inductive Spells (bs : Array UInt8) : (pos : Nat) → List Octets → (past : Nat) → Prop
  | root {pos : Nat} : Part.root.StandsAt bs pos → Spells bs pos [] (pos + 1)
  | label {pos past : Nat} {octets : Octets} {labels : List Octets} :
      (Part.label octets).StandsAt bs pos → Spells bs (pos + 1 + octets.length) labels past →
      Spells bs pos (octets :: labels) past
  | pointer {pos past target : Nat} {labels : List Octets} :
      (Part.pointer target).StandsAt bs pos → target < bs.size → Spells bs target labels past →
      Spells bs pos labels (pos + 2)

def Endless (bs : Array UInt8) (pos : Nat) : Prop :=
  ∃ visit : Nat → Nat, visit 0 = pos ∧ ∀ i, Step bs (visit i) (visit (i + 1))

def Stuck (bs : Array UInt8) (pos : Nat) : Prop :=
  ∃ last, Relation.ReflTransGen (Step bs) pos last ∧ ¬ Part.root.StandsAt bs last ∧ ∀ next, ¬ Step bs last next

lemma Step.unique {p q : Nat} (h : Step bs pos p) (h' : Step bs pos q) : p = q := by
  cases h with
  | label h =>
    cases h' with
    | label h' => cases h.unique h'; rfl
    | pointer h' _ => cases h.unique h'
  | pointer h _ =>
    cases h' with
    | label h' => cases h.unique h'
    | pointer h' _ => cases h.unique h'; rfl

lemma not_step_of_root (h : Part.root.StandsAt bs pos) : ¬ Step bs pos next := by
  intro hs
  cases hs with
  | label h' => cases h.unique h'
  | pointer h' _ => cases h.unique h'

lemma Spells.unique {labels labels' : List Octets} {past' : Nat} (h : Spells bs pos labels past)
    (h' : Spells bs pos labels' past') : labels = labels' ∧ past = past' := by
  induction h generalizing labels' past' with
  | root h =>
    cases h' with
    | root _ => exact ⟨rfl, rfl⟩
    | label h' _ => cases h.unique h'
    | pointer h' _ _ => cases h.unique h'
  | label h _ ih =>
    cases h' with
    | root h' => cases h.unique h'
    | label h' hs =>
      cases h.unique h'
      obtain ⟨rfl, rfl⟩ := ih hs
      exact ⟨rfl, rfl⟩
    | pointer h' _ _ => cases h.unique h'
  | pointer h _ _ ih =>
    cases h' with
    | root h' => cases h.unique h'
    | label h' _ => cases h.unique h'
    | pointer h' _ hs =>
      cases h.unique h'
      obtain ⟨rfl, _⟩ := ih hs
      exact ⟨rfl, rfl⟩

lemma exists_spells_iff : (∃ labels past, Spells bs pos labels past) ↔
    ∃ last, Relation.ReflTransGen (Step bs) pos last ∧ Part.root.StandsAt bs last := by
  constructor
  · rintro ⟨labels, past, h⟩
    induction h with
    | root h => exact ⟨_, .refl, h⟩
    | label h _ ih =>
      obtain ⟨last, hw, hl⟩ := ih
      exact ⟨last, .head (.label h) hw, hl⟩
    | pointer h ht _ ih =>
      obtain ⟨last, hw, hl⟩ := ih
      exact ⟨last, .head (.pointer h ht) hw, hl⟩
  · rintro ⟨last, hw, hl⟩
    induction hw using Relation.ReflTransGen.head_induction_on with
    | refl => exact ⟨_, _, .root hl⟩
    | head hs _ ih =>
      obtain ⟨labels, past, h⟩ := ih
      cases hs with
      | label hp => exact ⟨_, _, .label hp h⟩
      | pointer hp ht => exact ⟨_, _, .pointer hp ht h⟩

lemma Endless.of_step (hs : Step bs pos next) (h : Endless bs next) : Endless bs pos := by
  obtain ⟨visit, h0, hv⟩ := h
  refine ⟨fun i => i.casesOn pos visit, rfl, ?_⟩
  intro i
  cases i with
  | zero =>
    change Step bs pos (visit 0)
    rwa [h0]
  | succ i => exact hv i

lemma Endless.step (hs : Step bs pos next) (h : Endless bs pos) : Endless bs next := by
  obtain ⟨visit, rfl, hv⟩ := h
  exact ⟨fun i => visit (i + 1), (hv 0).unique hs, fun i => hv (i + 1)⟩

lemma Endless.walk {last : Nat} (h : Endless bs pos) (hw : Relation.ReflTransGen (Step bs) pos last) :
    Endless bs last := by
  induction hw with
  | refl => exact h
  | tail _ hs ih => exact ih.step hs

lemma Endless.exists_step (h : Endless bs pos) : ∃ next, Step bs pos next := by
  obtain ⟨visit, rfl, hv⟩ := h
  exact ⟨visit 1, hv 0⟩

lemma endless_of_invariant (good : Nat → Prop) (h0 : good pos)
    (hstep : ∀ p, good p → ∃ q, Step bs p q ∧ good q) : Endless bs pos := by
  choose next hnext using hstep
  let visit : Nat → {p // good p} := fun i =>
    Nat.rec ⟨pos, h0⟩ (fun _ p => ⟨next p.1 p.2, (hnext p.1 p.2).2⟩) i
  exact ⟨fun i => (visit i).1, rfl, fun i => (hnext (visit i).1 (visit i).2).1⟩

lemma endless_of_cycle (h : Relation.TransGen (Step bs) pos pos) : Endless bs pos := by
  apply endless_of_invariant (fun p => Relation.TransGen (Step bs) p p) h
  intro p hp
  obtain ⟨q, hs, hw⟩ := Relation.TransGen.head'_iff.mp hp
  exact ⟨q, hs, Relation.TransGen.tail' hw hs⟩

lemma Spells.not_endless {labels : List Octets} (h : Spells bs pos labels past) : ¬ Endless bs pos := by
  intro he
  obtain ⟨last, hw, hl⟩ := exists_spells_iff.mp ⟨labels, past, h⟩
  obtain ⟨next, hs⟩ := (he.walk hw).exists_step
  exact not_step_of_root hl hs

lemma Stuck.not_endless (h : Stuck bs pos) : ¬ Endless bs pos := by
  intro he
  obtain ⟨last, hw, _, hl⟩ := h
  obtain ⟨next, hs⟩ := (he.walk hw).exists_step
  exact hl next hs

lemma Stuck.of_step (hs : Step bs pos next) (h : Stuck bs next) : Stuck bs pos := by
  obtain ⟨last, hw, hl⟩ := h
  exact ⟨last, .head hs hw, hl⟩

lemma Stuck.step (hs : Step bs pos next) (h : Stuck bs pos) : Stuck bs next := by
  obtain ⟨last, hw, hr, hl⟩ := h
  rcases Relation.ReflTransGen.cases_head hw with rfl | ⟨p, hp, hw⟩
  · exact (hl next hs).elim
  · exact ⟨last, hs.unique hp ▸ hw, hr, hl⟩

lemma Spells.not_stuck {labels : List Octets} (h : Spells bs pos labels past) : ¬ Stuck bs pos := by
  induction h with
  | root h =>
    rintro ⟨last, hw, hr, _⟩
    rcases Relation.ReflTransGen.cases_head hw with rfl | ⟨p, hp, _⟩
    · exact hr h
    · exact not_step_of_root h hp
  | label h _ ih => exact fun hs => ih (hs.step (.label h))
  | pointer h ht _ ih => exact fun hs => ih (hs.step (.pointer h ht))

lemma Spells.exists_positions {labels : List Octets} (h : Spells bs pos labels past) :
    ∃ ps : List Nat, ps.length = labels.length + 1 ∧ ps.Nodup ∧
      ∀ p ∈ ps, p < bs.size ∧ Relation.ReflTransGen (Step bs) pos p := by
  induction h with
  | root h => exact ⟨[_], rfl, by simp, by simpa using ⟨h.size_le, .refl⟩⟩
  | @label pos past octets labels h hs ih =>
    obtain ⟨ps, hl, hn, hp⟩ := ih
    have hpos : pos ∉ ps := by
      intro hm
      have hcycle := Relation.TransGen.head' (Step.label h) (hp pos hm).2
      exact (Spells.label h hs).not_endless (endless_of_cycle hcycle)
    refine ⟨pos :: ps, by simp [hl], List.nodup_cons.mpr ⟨hpos, hn⟩, ?_⟩
    intro p hm
    rcases List.mem_cons.mp hm with rfl | hm
    · exact ⟨Nat.lt_of_lt_of_le (by simp [Part.octets]) h.size_le, .refl⟩
    · exact ⟨(hp p hm).1, .head (.label h) (hp p hm).2⟩
  | pointer h ht _ ih =>
    obtain ⟨ps, hl, hn, hp⟩ := ih
    exact ⟨ps, hl, hn, fun p hm => ⟨(hp p hm).1, .head (.pointer h ht) (hp p hm).2⟩⟩

lemma Spells.length_lt {labels : List Octets} (h : Spells bs pos labels past) : labels.length < bs.size := by
  obtain ⟨ps, hl, hn, hp⟩ := h.exists_positions
  have hle : ps.length ≤ (List.range bs.size).length :=
    List.Nodup.length_le_of_subset hn fun p hm => List.mem_range.mpr (hp p hm).1
  rw [List.length_range, hl] at hle
  exact hle

lemma Spells.mono {labels : List Octets} (hc : Continues bs cs) (h : Spells bs pos labels past) :
    Spells cs pos labels past := by
  induction h with
  | root h => exact .root (h.mono hc)
  | label h _ ih => exact .label (h.mono hc) ih
  | pointer h ht _ ih => exact .pointer (h.mono hc) (Nat.lt_of_lt_of_le ht hc.size_le) ih

end DomainLocator.Dns.Name

import DomainLocator.Buffer
import Mathlib.Data.List.Infix

namespace DomainLocator

variable {bs cs : Array UInt8} {xs ys : Octets} {x : UInt8} {pos : Nat}

def HoldsAt (bs : Array UInt8) (pos : Nat) (xs : Octets) : Prop :=
  xs <+: bs.toList.drop pos

def Continues (bs cs : Array UInt8) : Prop :=
  bs.toList <+: cs.toList

lemma size_append_octets (bs : Array UInt8) (xs : Octets) : (bs ++ xs).size = bs.size + xs.length := by
  rw [← Array.length_toList, Array.toList_appendList, List.length_append, Array.length_toList]

lemma append_octets_append (bs : Array UInt8) (xs ys : Octets) : bs ++ xs ++ ys = bs ++ (xs ++ ys) := by
  apply Array.toList_inj.mp
  simp

namespace Continues

lemma refl (bs : Array UInt8) : Continues bs bs :=
  List.prefix_rfl

lemma trans {ds : Array UInt8} (h : Continues bs cs) (h' : Continues cs ds) : Continues bs ds :=
  List.IsPrefix.trans h h'

lemma append_octets (bs : Array UInt8) (xs : Octets) : Continues bs (bs ++ xs) := by
  simp [Continues]

lemma size_le (h : Continues bs cs) : bs.size ≤ cs.size := by
  simpa using List.IsPrefix.length_le h

lemma extract_eq (h : Continues bs cs) : cs.extract 0 bs.size = bs := by
  obtain ⟨more, hm⟩ := h
  apply Array.toList_inj.mp
  rw [← Array.length_toList, Array.toList_extract, List.extract_eq_take_drop, ← hm]
  simp

end Continues

lemma Continues.exists_append (h : Continues bs cs) : ∃ added : Octets, cs = bs ++ added := by
  obtain ⟨added, ha⟩ := h
  refine ⟨added, Array.toList_inj.mp ?_⟩
  rw [← ha, Array.toList_appendList]

namespace HoldsAt

lemma mono (hc : Continues bs cs) (h : HoldsAt bs pos xs) : HoldsAt cs pos xs :=
  List.IsPrefix.trans h (List.IsPrefix.drop hc pos)

lemma at_end (bs : Array UInt8) (xs : Octets) : HoldsAt (bs ++ xs) bs.size xs := by
  simp [HoldsAt]

lemma size_le (h : HoldsAt bs pos xs) (hx : xs ≠ []) : pos + xs.length ≤ bs.size := by
  have hl := List.IsPrefix.length_le h
  have hp := List.length_pos_iff.mpr hx
  rw [List.length_drop, bs.length_toList] at hl
  omega

lemma cons_iff : HoldsAt bs pos (x :: xs) ↔ bs[pos]? = some x ∧ HoldsAt bs (pos + 1) xs := by
  simp only [HoldsAt, ← Array.getElem?_toList]
  by_cases hp : pos < bs.toList.length
  · rw [List.drop_eq_getElem_cons hp, List.cons_prefix_cons, List.getElem?_eq_getElem hp,
      Option.some.injEq, eq_comm]
  · rw [List.drop_eq_nil_of_le (by omega), List.getElem?_eq_none (by omega)]
    simp

@[simp]
lemma nil : HoldsAt bs pos [] :=
  List.nil_prefix

lemma append_iff :
    HoldsAt bs pos (xs ++ ys) ↔ HoldsAt bs pos xs ∧ HoldsAt bs (pos + xs.length) ys := by
  induction xs generalizing pos with
  | nil => simp
  | cons x xs ih =>
    have hp : pos + 1 + xs.length = pos + (x :: xs).length := by
      rw [List.length_cons]
      omega
    rw [List.cons_append, cons_iff, cons_iff, ih, hp, and_assoc]

end HoldsAt

namespace Buffer

variable {buf : Buffer}

lemma continues_ofOctets (bs : Array UInt8) (xs : Octets) : Continues bs (ofOctets (bs.toList ++ xs)).toArray := by
  simp [Continues, ofOctets]

lemma holdsAt_ofOctets (xs ys : Octets) : HoldsAt (ofOctets (xs ++ ys)).toArray xs.length ys := by
  simp [HoldsAt, ofOctets]

lemma size_ofOctets (bs : Octets) : (ofOctets bs).size = bs.length := by
  simp [ofOctets]

lemma slice?_eq_some_iff {width : Nat} (hw : 0 < width) :
    buf.slice? width pos = some xs ↔ xs.length = width ∧ HoldsAt buf.toArray pos xs := by
  constructor
  · intro h
    obtain ⟨hl, hs⟩ := length_slice? h
    refine ⟨hl, ?_⟩
    rw [slice?_eq, if_pos hs, Option.some.injEq, Array.toList_extract, List.extract_eq_take_drop,
      Nat.add_sub_cancel_left] at h
    exact h ▸ List.take_prefix ..
  · rintro ⟨rfl, h⟩
    have hs := h.size_le (List.length_pos_iff.mp hw)
    rw [size_toArray] at hs
    rw [slice?_eq, if_pos hs, Option.some.injEq, Array.toList_extract, List.extract_eq_take_drop,
      Nat.add_sub_cancel_left]
    exact (List.prefix_iff_eq_take.mp h).symm

lemma exists_field {width : Nat} (h : pos + width ≤ buf.size) : ∃ xs, buf.field width pos = .ok (xs, pos + width) := by
  rw [field, slice?_eq, if_pos h]
  exact ⟨_, rfl⟩

lemma exists_littleWord16 (h : pos + 2 ≤ buf.size) : ∃ n, buf.littleWord16 pos = .ok (n, pos + 2) := by
  obtain ⟨xs, hf⟩ := exists_field h
  rw [littleWord16, hf]
  exact ⟨_, rfl⟩

lemma exists_littleWord32 (h : pos + 4 ≤ buf.size) : ∃ n, buf.littleWord32 pos = .ok (n, pos + 4) := by
  obtain ⟨xs, hf⟩ := exists_field h
  rw [littleWord32, hf]
  exact ⟨_, rfl⟩

lemma field_of_holdsAt {width : Nat} (hw : 0 < width) (hl : xs.length = width) (h : HoldsAt buf.toArray pos xs) :
    buf.field width pos = .ok (xs, pos + width) := by
  rw [field, (slice?_eq_some_iff hw).mpr ⟨hl, h⟩]

lemma word16_of_holdsAt {n : UInt16} (h : HoldsAt buf.toArray pos (Octets.bigEndian 2 n.toNat)) :
    buf.word16 pos = .ok (n, pos + 2) := by
  have hf : buf.field 2 pos = .ok (Octets.bigEndian 2 n.toNat, pos + 2) := field_of_holdsAt (by decide) (by simp) h
  have hc : n.toNat % Octets.capacity 2 = n.toNat := Nat.mod_eq_of_lt n.toNat_lt
  rw [word16, hf]
  simp only [bind, Except.bind, pure, Except.pure, Octets.ofBigEndian_bigEndian, hc, UInt16.ofNat_toNat]

lemma word32_of_holdsAt {n : UInt32} (h : HoldsAt buf.toArray pos (Octets.bigEndian 4 n.toNat)) :
    buf.word32 pos = .ok (n, pos + 4) := by
  have hf : buf.field 4 pos = .ok (Octets.bigEndian 4 n.toNat, pos + 4) := field_of_holdsAt (by decide) (by simp) h
  have hc : n.toNat % Octets.capacity 4 = n.toNat := Nat.mod_eq_of_lt n.toNat_lt
  rw [word32, hf]
  simp only [bind, Except.bind, pure, Except.pure, Octets.ofBigEndian_bigEndian, hc, UInt32.ofNat_toNat]

lemma littleWord16_of_holdsAt {n : UInt16} (h : HoldsAt buf.toArray pos (Octets.littleEndian 2 n.toNat)) :
    buf.littleWord16 pos = .ok (n, pos + 2) := by
  have hf : buf.field 2 pos = .ok (Octets.littleEndian 2 n.toNat, pos + 2) :=
    field_of_holdsAt (by decide) (by simp) h
  have hc : n.toNat % Octets.capacity 2 = n.toNat := Nat.mod_eq_of_lt n.toNat_lt
  rw [littleWord16, hf]
  simp only [bind, Except.bind, pure, Except.pure, Octets.ofLittleEndian_littleEndian, hc, UInt16.ofNat_toNat]

lemma littleWord32_of_holdsAt {n : UInt32} (h : HoldsAt buf.toArray pos (Octets.littleEndian 4 n.toNat)) :
    buf.littleWord32 pos = .ok (n, pos + 4) := by
  have hf : buf.field 4 pos = .ok (Octets.littleEndian 4 n.toNat, pos + 4) :=
    field_of_holdsAt (by decide) (by simp) h
  have hc : n.toNat % Octets.capacity 4 = n.toNat := Nat.mod_eq_of_lt n.toNat_lt
  rw [littleWord32, hf]
  simp only [bind, Except.bind, pure, Except.pure, Octets.ofLittleEndian_littleEndian, hc, UInt32.ofNat_toNat]

lemma continues_cut (h : Continues bs buf.toArray) : Continues bs (buf.cut bs.size).toArray := by
  rw [toArray_cut, h.extract_eq]
  exact .refl bs

section Many

variable {α : Type} {read : Nat → Except WireError (α × Nat)}

lemma manyOnto_eq (read : Nat → Except WireError (α × Nat)) (done : List α) (count pos : Nat) :
    manyOnto read done count pos = many read count pos >>= fun (values, past) =>
      pure (done.reverse ++ values, past) := by
  rw [many]
  induction count generalizing done pos with
  | zero => simp [manyOnto, bind, Except.bind, pure, Except.pure]
  | succ count ih =>
    rw [manyOnto, manyOnto]
    cases read pos with
    | error e => rfl
    | ok found =>
      obtain ⟨value, next⟩ := found
      simp only
      rw [ih (value :: done), ih [value], bind_assoc]
      simp

lemma many_zero (read : Nat → Except WireError (α × Nat)) (pos : Nat) : many read 0 pos = .ok ([], pos) := rfl

lemma many_succ (read : Nat → Except WireError (α × Nat)) (count pos : Nat) :
    many read (count + 1) pos = do
      let (value, pos) ← read pos
      let (values, pos) ← many read count pos
      return (value :: values, pos) := by
  rw [many, manyOnto]
  cases read pos with
  | error e => rfl
  | ok found => exact manyOnto_eq read [found.1] count found.2

end Many

end Buffer

end DomainLocator

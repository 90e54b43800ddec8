import DomainLocator.Octets
import DomainLocator.WireError

namespace DomainLocator

structure Buffer where
  octets : Array UInt8
  size : Nat
  size_le : size ≤ octets.size

namespace Buffer

def ofArray (octets : Array UInt8) : Buffer :=
  ⟨octets, octets.size, Nat.le_refl _⟩

def ofOctets (bs : Octets) : Buffer :=
  ofArray bs.toArray

def toArray (buf : Buffer) : Array UInt8 :=
  buf.octets.extract 0 buf.size

def cut (buf : Buffer) (stop : Nat) : Buffer :=
  ⟨buf.octets, min stop buf.size, Nat.le_trans (Nat.min_le_right ..) buf.size_le⟩

def get? (buf : Buffer) (pos : Nat) : Option UInt8 :=
  if h : pos < buf.size then
    have := Nat.lt_of_lt_of_le h buf.size_le
    some buf.octets[pos]
  else none

def slice? (buf : Buffer) (width pos : Nat) : Option Octets :=
  if pos + width ≤ buf.size then some (buf.octets.extract pos (pos + width)).toList else none

def field (buf : Buffer) (width pos : Nat) : Except WireError (Octets × Nat) :=
  match buf.slice? width pos with
  | some bs => .ok (bs, pos + width)
  | none => .error (.truncated pos)

def word16 (buf : Buffer) (pos : Nat) : Except WireError (UInt16 × Nat) := do
  let (bs, pos) ← buf.field 2 pos
  return (UInt16.ofNat (Octets.ofBigEndian bs), pos)

def word32 (buf : Buffer) (pos : Nat) : Except WireError (UInt32 × Nat) := do
  let (bs, pos) ← buf.field 4 pos
  return (UInt32.ofNat (Octets.ofBigEndian bs), pos)

def littleWord16 (buf : Buffer) (pos : Nat) : Except WireError (UInt16 × Nat) := do
  let (bs, pos) ← buf.field 2 pos
  return (UInt16.ofNat (Octets.ofLittleEndian bs), pos)

def littleWord32 (buf : Buffer) (pos : Nat) : Except WireError (UInt32 × Nat) := do
  let (bs, pos) ← buf.field 4 pos
  return (UInt32.ofNat (Octets.ofLittleEndian bs), pos)

def manyOnto {α : Type} (read : Nat → Except WireError (α × Nat)) (done : List α) :
    Nat → Nat → Except WireError (List α × Nat)
  | 0, pos => .ok (done.reverse, pos)
  | count + 1, pos =>
    match read pos with
    | .error e => .error e
    | .ok (value, pos) => manyOnto read (value :: done) count pos

def many {α : Type} (read : Nat → Except WireError (α × Nat)) (count pos : Nat) :
    Except WireError (List α × Nat) :=
  manyOnto read [] count pos

@[simp]
theorem size_toArray (buf : Buffer) : buf.toArray.size = buf.size := by
  have := buf.size_le
  simp only [toArray, Array.size_extract]
  omega

@[simp]
theorem toArray_ofArray (octets : Array UInt8) : (ofArray octets).toArray = octets := by
  simp [ofArray, toArray]

@[simp]
theorem size_ofArray (octets : Array UInt8) : (ofArray octets).size = octets.size := rfl

theorem toArray_cut (buf : Buffer) (stop : Nat) : (buf.cut stop).toArray = buf.toArray.extract 0 stop := by
  simp [toArray, cut, Array.extract_extract]

theorem get?_eq (buf : Buffer) (pos : Nat) : buf.get? pos = buf.toArray[pos]? := by
  have := buf.size_le
  unfold get? toArray
  split
  · rename_i h
    rw [Array.getElem?_extract_of_lt (by omega)]
    simp
  · rw [Array.getElem?_eq_none]
    simp only [Array.size_extract]
    omega

theorem slice?_eq (buf : Buffer) (width pos : Nat) :
    buf.slice? width pos =
      if pos + width ≤ buf.size then some (buf.toArray.extract pos (pos + width)).toList else none := by
  unfold slice? toArray
  split
  · rw [Array.extract_extract]
    congr 3
    all_goals omega
  · rfl

theorem length_slice? {buf : Buffer} {width pos : Nat} {bs : Octets} (h : buf.slice? width pos = some bs) :
    bs.length = width ∧ pos + width ≤ buf.size := by
  have := buf.size_le
  unfold slice? at h
  split at h
  · simp only [Option.some.injEq] at h
    subst h
    refine ⟨?_, ‹_›⟩
    simp only [Array.length_toList, Array.size_extract]
    omega
  · contradiction

end Buffer

end DomainLocator

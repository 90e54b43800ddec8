import Std.Data.HashMap
import DomainLocator.Octets
import DomainLocator.WireError

/-! A message being written: its octets so far, and the offset of the first place where each suffix of its names was
written out. Only offsets that fit in a pointer are kept. -/

namespace DomainLocator.Dns

abbrev SuffixTable := Std.HashMap (List String) Nat

structure Writer where
  octets : Array UInt8 := #[]
  suffixes : SuffixTable := ∅
  deriving Inhabited

structure Interrupted where
  cause : WireError
  written : Writer

namespace Writer

def maxPointer : Nat := 0x3fff

def append (w : Writer) (bs : Octets) : Writer :=
  { w with octets := w.octets ++ bs }

def word16 (w : Writer) (n : UInt16) : Writer :=
  w.append (Octets.bigEndian 2 n.toNat)

def word32 (w : Writer) (n : UInt32) : Writer :=
  w.append (Octets.bigEndian 4 n.toNat)

def count (w : Writer) (n : Nat) : Except Interrupted Writer :=
  if n ≤ 0xffff then .ok (w.append (Octets.bigEndian 2 n)) else .error ⟨.sectionOverflow n, w⟩

def note (w : Writer) (suffix : List String) : Writer :=
  if w.octets.size ≤ maxPointer then { w with suffixes := w.suffixes.insert suffix w.octets.size } else w

def patch16 (w : Writer) (pos n : Nat) : Writer :=
  { w with octets :=
      (w.octets.setIfInBounds pos (UInt8.ofNat (n / 256))).setIfInBounds (pos + 1) (UInt8.ofNat n) }

def all {α : Type} (w : Writer) (write : α → Writer → Except Interrupted Writer) (values : List α) :
    Except Interrupted Writer :=
  values.foldlM (fun w value => write value w) w

/-- Writes, and counts the octets from `start` on. Not inlined, so that `start` is known before the octets of
the writer are taken over. -/
@[noinline]
def countedFrom (start : Nat) (write : Writer → Except Interrupted Writer) (w : Writer) :
    Except Interrupted (Nat × Writer) := do
  let w ← write w
  return (w.octets.size - start, w)

def counted (w : Writer) (write : Writer → Except Interrupted Writer) : Except Interrupted (Nat × Writer) :=
  countedFrom w.octets.size write w

def tally {α : Type} (w : Writer) (write : α → Writer → Except Interrupted (Nat × Writer)) (total : Nat)
    (values : List α) : Except Interrupted (Nat × Writer) :=
  values.foldlM (fun (total, w) value => do
    let (count, w) ← write value w
    return (total + count, w)) (total, w)

@[simp]
theorem octets_append (w : Writer) (bs : Octets) : (w.append bs).octets = w.octets ++ bs := rfl

@[simp]
theorem suffixes_append (w : Writer) (bs : Octets) : (w.append bs).suffixes = w.suffixes := rfl

@[simp]
theorem octets_note (w : Writer) (suffix : List String) : (w.note suffix).octets = w.octets := by
  unfold note
  split <;> rfl

end Writer

end DomainLocator.Dns

import Std.Data.TreeSet
import DomainLocator.Buffer
import DomainLocator.Dns.Name
import DomainLocator.Text.Utf8

/-! Reading a name from a message: a row of parts, each found where the last one ends or points. A walk that comes
twice to the target of a pointer has entered a loop. -/

namespace DomainLocator.Dns.Name

inductive Part where
  | root
  | label (octets : Octets)
  | pointer (target : Nat)
  deriving DecidableEq, Repr

def partAt (buf : Buffer) (pos : Nat) : Except WireError Part :=
  match buf.get? pos with
  | none => .error (.truncated pos)
  | some first =>
    -- The two high bits are clear before a label and set before a pointer.
    if first.toNat = 0 then .ok .root
    else if first.toNat < 0x40 then
      match buf.slice? first.toNat (pos + 1) with
      | some octets => .ok (.label octets)
      | none => .error (.malformedName pos .labelPastEnd)
    else if first.toNat < 0xc0 then .error (.malformedName pos .reservedLabelType)
    else
      match buf.get? (pos + 1) with
      | some second => .ok (.pointer ((first.toNat - 0xc0) * 256 + second.toNat))
      | none => .error (.truncated (pos + 1))

theorem partAt_label {buf : Buffer} {pos : Nat} {octets : Octets} (h : partAt buf pos = .ok (.label octets)) :
    0 < octets.length ∧ octets.length < 0x40 ∧ pos + 1 + octets.length ≤ buf.size := by
  unfold partAt at h
  split at h
  · contradiction
  · split at h
    · simp at h
    · split at h
      · split at h
        · rename_i hs
          simp only [Except.ok.injEq, Part.label.injEq] at h
          subst h
          obtain ⟨hl, hb⟩ := Buffer.length_slice? hs
          omega
        · contradiction
      · split at h
        · contradiction
        · split at h <;> simp at h

def unseen (size : Nat) (seen : Std.TreeSet Nat) : Nat :=
  (List.range size).countP fun p => !seen.contains p

theorem countP_lt_countP {α : Type} {f g : α → Bool} {l : List α} {a : α} (ha : a ∈ l) (hf : f a = false)
    (hg : g a = true) (h : ∀ x, f x = true → g x = true) : l.countP f < l.countP g := by
  induction l with
  | nil => simp at ha
  | cons x l ih =>
    have hle : l.countP f ≤ l.countP g := List.countP_mono_left fun y _ => h y
    rcases List.mem_cons.mp ha with rfl | hm
    · simp only [List.countP_cons, hf, hg]
      simp
      omega
    · have := ih hm
      simp only [List.countP_cons]
      by_cases hx : f x = true
      · simp [hx, h x hx]
        omega
      · simp [hx]
        omega

theorem unseen_insert {size p : Nat} {seen : Std.TreeSet Nat} (hp : p < size) (hs : p ∉ seen) :
    unseen size (seen.insert p) < unseen size seen := by
  refine countP_lt_countP (a := p) (List.mem_range.mpr hp) (by simp) ?_ fun x hx => ?_
  · simpa [← Std.TreeSet.contains_iff_mem] using hs
  · simp only [Std.TreeSet.contains_insert, Bool.not_or, Bool.and_eq_true] at hx
    exact hx.2

/-- Follows the parts from `pos` on. `done` are the labels met so far, last one first; `seen` are the
targets of the pointers met so far; `past` is the offset just past the first of these, if any. -/
def walk (buf : Buffer) (seen : Std.TreeSet Nat) (past : Option Nat) (done : List String) (pos : Nat) :
    Except WireError (Name × Nat) :=
  match _hpart : partAt buf pos with
  | .error e => .error e
  | .ok .root => .ok (⟨done.reverse⟩, past.getD (pos + 1))
  | .ok (.label octets) =>
    walk buf seen past (Text.Utf8.decodeLossy octets :: done) (pos + 1 + octets.length)
  | .ok (.pointer target) =>
    if _hseen : target ∈ seen then .error (.malformedName pos .pointerLoop)
    else if _hsize : target < buf.size then
      walk buf (seen.insert target) (past.or (some (pos + 2))) done target
    else .error (.malformedName pos .pointerOutOfBounds)
termination_by unseen buf.size seen * (buf.size + 1) + (buf.size - pos)
decreasing_by
  · have := partAt_label _hpart
    omega
  · have := unseen_insert _hsize _hseen
    have : (unseen buf.size (seen.insert target) + 1) * (buf.size + 1) ≤ unseen buf.size seen * (buf.size + 1) :=
      Nat.mul_le_mul_right _ this
    rw [Nat.add_mul] at this
    omega

/-- Reads the name at `pos`, with the offset just past it there: past its zero octet, or past the first
pointer met. -/
def decode (buf : Buffer) (pos : Nat) : Except WireError (Name × Nat) :=
  walk buf ∅ none [] pos

end DomainLocator.Dns.Name

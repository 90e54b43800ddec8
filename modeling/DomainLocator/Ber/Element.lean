import DomainLocator.Octets
import DomainLocator.WireError

/-! BER elements: a tag of one octet, a definite length, and the contents. `element` writes the length in the fewest
octets, and `read` takes any definite form of up to eight length octets. -/

namespace DomainLocator.Ber

def tagOf : BerType → UInt8
  | .boolean => 0x01
  | .integer => 0x02
  | .octetString => 0x04
  | .enumerated => 0x0a
  | .sequence => 0x30
  | .set => 0x31

def application (number : UInt8) : UInt8 := 0x60 + number

def context (number : UInt8) : UInt8 := 0xa0 + number

def classOf (tag : UInt8) : TagClass :=
  if tag.toNat < 0x40 then .universal
  else if tag.toNat < 0x80 then .application
  else if tag.toNat < 0xc0 then .contextSpecific
  else .priv

def numberOf (tag : UInt8) : Nat :=
  tag.toNat % 32

def octetCount (n : Nat) : Nat :=
  n.log2 / 8 + 1

def lengthOctets (n : Nat) : Octets :=
  if n < 0x80 then [UInt8.ofNat n]
  else UInt8.ofNat (0x80 + octetCount n) :: Octets.bigEndian (octetCount n) n

def element (tag : UInt8) (contents : Octets) : Octets :=
  tag :: (lengthOctets contents.length ++ contents)

structure Found (α : Type) (input : Octets) where
  value : α
  rest : Octets
  shorter : rest.length < input.length

abbrev Item (α : Type) := (input : Octets) → Except WireError (Found α input)

structure Element where
  tag : UInt8
  contents : Octets
  deriving DecidableEq, Repr

def maxLengthOctets : Nat := 8

def readLength (first : UInt8) (rest : Octets) : Except WireError (Nat × Octets) :=
  let count := first.toNat - 0x80
  if first.toNat < 0x80 then .ok (first.toNat, rest)
  else if count = 0 then .error (.invalidBer .indefiniteLength)
  else if maxLengthOctets < count then .error (.invalidBer .longLength)
  else
    match Octets.split? count rest with
    | none => .error (.invalidBer .truncatedLength)
    | some (octets, rest) => .ok (Octets.ofBigEndian octets, rest)

theorem readLength_le {first : UInt8} {rest after : Octets} {n : Nat}
    (h : readLength first rest = .ok (n, after)) : after.length ≤ rest.length := by
  simp only [readLength] at h
  split at h
  · simp only [Except.ok.injEq, Prod.mk.injEq] at h
    simp [h.2]
  · split at h
    · simp at h
    · split at h
      · simp at h
      · split at h
        · simp at h
        · rename_i hs
          simp only [Except.ok.injEq, Prod.mk.injEq] at h
          rw [(Octets.split?_eq_some hs).1, h.2]
          simp

theorem split?_length_le {n : Nat} {bs taken rest : Octets} (h : Octets.split? n bs = some (taken, rest)) :
    rest.length ≤ bs.length := by
  rw [(Octets.split?_eq_some h).1]
  simp

def read : Item Element
  | tag :: first :: after =>
    if numberOf tag = 31 then .error (.invalidBer .highTagNumber)
    else
      match hl : readLength first after with
      | .error e => .error e
      | .ok (length, body) =>
        match hb : Octets.split? length body with
        | none => .error (.invalidBer .contentsPastEnd)
        | some (contents, rest) =>
          .ok ⟨⟨tag, contents⟩, rest, by
            have := readLength_le hl
            have := split?_length_le hb
            simp only [List.length_cons]
            omega⟩
  | [_] => .error (.invalidBer .missingTagOrLength)
  | [] => .error (.invalidBer .missingTagOrLength)

def Item.andThen {α β : Type} (item : Item α) (f : α → Except WireError β) : Item β := fun input =>
  match item input with
  | .error e => .error e
  | .ok found =>
    match f found.value with
    | .error e => .error e
    | .ok value => .ok ⟨value, found.rest, found.shorter⟩

def untilEndOnto {α : Type} (item : Item α) (done : List α) (input : Octets) : Except WireError (List α) :=
  match input with
  | [] => .ok done.reverse
  | b :: bs =>
    match item (b :: bs) with
    | .error e => .error e
    | .ok found => untilEndOnto item (found.value :: done) found.rest
termination_by input.length
decreasing_by exact found.shorter

def untilEnd {α : Type} (item : Item α) (input : Octets) : Except WireError (List α) :=
  untilEndOnto item [] input

abbrev Reading := StateT Octets (Except WireError)

def Item.next {α : Type} (item : Item α) : Reading α := fun input =>
  match item input with
  | .error e => .error e
  | .ok found => .ok (found.value, found.rest)

def nextTag : Reading UInt8 := fun input =>
  match input with
  | [] => .error (.invalidBer .missingTag)
  | tag :: _ => .ok (tag, input)

def Reading.within {α : Type} (reading : Reading α) (contents : Octets) : Except WireError α :=
  (reading.run contents).map (·.1)

end DomainLocator.Ber

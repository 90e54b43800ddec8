import DomainLocator.Octets

/-! Text as octets, in UTF-8. A well-formed sequence gives its character, and each longest beginning of one that goes
no further gives nothing. -/

namespace DomainLocator.Text.Utf8

open DomainLocator

def encode (s : String) : Octets :=
  s.toList.flatMap String.utf8EncodeChar

/-- What the first octet of a sequence fixes: how many octets are still owed, the range of the first
of them, and the high bits of the character. Later ones range over 0x80 to 0xBF. -/
structure Lead where
  owed : Nat
  low : Nat
  high : Nat
  bits : Nat
  deriving DecidableEq, Repr

def lead? (b : Nat) : Option Lead :=
  -- The ranges leave out the overlong forms, the surrogates and all above U+10FFFF.
  if b ≤ 0x7f then some ⟨0, 0x80, 0xbf, b⟩
  else if b < 0xc2 then none
  else if b ≤ 0xdf then some ⟨1, 0x80, 0xbf, b - 0xc0⟩
  else if b = 0xe0 then some ⟨2, 0xa0, 0xbf, 0⟩
  else if b = 0xed then some ⟨2, 0x80, 0x9f, 0xd⟩
  else if b ≤ 0xef then some ⟨2, 0x80, 0xbf, b - 0xe0⟩
  else if b = 0xf0 then some ⟨3, 0x90, 0xbf, 0⟩
  else if b ≤ 0xf3 then some ⟨3, 0x80, 0xbf, b - 0xf0⟩
  else if b = 0xf4 then some ⟨3, 0x80, 0x8f, 4⟩
  else none

/-- Reads the octets still owed, the first of them in the given range, six bits from each. An octet
out of range is left unread: it may start the next sequence. -/
def tails : (owed low high bits : Nat) → Octets → Option Nat × Octets
  | 0, _, _, bits, rest => (some bits, rest)
  | _ + 1, _, _, _, [] => (none, [])
  | owed + 1, low, high, bits, b :: rest =>
    if low ≤ b.toNat ∧ b.toNat ≤ high then
      tails owed 0x80 0xbf (bits * 64 + (b.toNat - 0x80)) rest
    else (none, b :: rest)

def next (b : UInt8) (rest : Octets) : Option Char × Octets :=
  match lead? b.toNat with
  | none => (none, rest)
  | some l =>
    let (bits, rest) := tails l.owed l.low l.high l.bits rest
    (bits.map Char.ofNat, rest)

theorem tails_length_le (owed low high bits : Nat) (bs : Octets) :
    (tails owed low high bits bs).2.length ≤ bs.length := by
  fun_induction tails owed low high bits bs with
  | case1 => simp
  | case2 => simp
  | case3 owed low high bits b rest h ih => simp only [List.length_cons]; omega
  | case4 => simp

theorem next_length_le (b : UInt8) (rest : Octets) : (next b rest).2.length ≤ rest.length := by
  unfold next
  split
  · simp
  · exact tails_length_le ..

def scanOnto (done : List (Option Char)) : Octets → List (Option Char)
  | [] => done.reverse
  | b :: rest => scanOnto ((next b rest).1 :: done) (next b rest).2
termination_by bs => bs.length
decreasing_by
  have := next_length_le b rest
  simp only [List.length_cons]
  omega

def scan (bs : Octets) : List (Option Char) :=
  scanOnto [] bs

def decodeLossy (bs : Octets) : String :=
  String.ofList ((scan bs).map (·.getD '\ufffd'))

def decode? (bs : Octets) : Option String :=
  ((scan bs).mapM id).map String.ofList

theorem scanOnto_append (last first : List (Option Char)) (bs : Octets) :
    scanOnto (last ++ first) bs = first.reverse ++ scanOnto last bs := by
  fun_induction scanOnto last bs with
  | case1 last => simp [scanOnto]
  | case2 last b rest ih => rw [scanOnto]; exact ih

@[simp]
theorem scan_nil : scan [] = [] := by
  simp [scan, scanOnto]

theorem scan_cons (b : UInt8) (rest : Octets) :
    scan (b :: rest) = (next b rest).1 :: scan (next b rest).2 := by
  rw [scan, scanOnto]
  exact scanOnto_append [] [(next b rest).1] (next b rest).2

end DomainLocator.Text.Utf8

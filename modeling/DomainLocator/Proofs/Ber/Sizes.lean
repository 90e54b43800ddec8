import DomainLocator.Proofs.Ber.Encodings
import Mathlib.Algebra.GroupWithZero.Nat

namespace DomainLocator.Ber

def AtMost (k : Nat) (written : Octets) (words : Language UInt8) : Prop :=
  ∀ word ∈ words, written.length ≤ k * word.length

structure Leeway.Grows (l : Leeway) (k : Nat) : Prop where
  pos : 0 < k
  text : ∀ s, AtMost k (Text.Utf8.encode s) (l.text s)

lemma Leeway.grows_wellFormed : wellFormed.Grows 1 where
  pos := Nat.one_pos
  text s := by
    intro bs hbs
    rw [Text.Utf8.encode_of_decode? hbs, Nat.one_mul]

lemma Leeway.grows_any : any.Grows 3 where
  pos := by decide
  text s := by
    rintro bs rfl
    exact Text.Utf8.length_encode_decodeLossy_le bs

section Lengths

variable {k n n' : Nat} {length : Octets}

lemma length_lengthOctets (n : Nat) : (lengthOctets n).length = if n < 0x80 then 1 else octetCount n + 1 := by
  rw [lengthOctets]
  split
  · rfl
  · rw [List.length_cons, Octets.length_bigEndian]

lemma length_lengthOctets_le (n : Nat) : (lengthOctets n).length ≤ n + 2 := by
  have := Nat.log2_le_self n
  rw [length_lengthOctets, octetCount]
  split <;> omega

lemma length_element_le (tag : UInt8) (contents : Octets) :
    (element tag contents).length ≤ 2 * contents.length + 3 := by
  have := length_lengthOctets_le contents.length
  rw [element, List.length_cons, List.length_append]
  omega

lemma length_writeInteger_le (value : Int32) : (writeInteger value).length ≤ 11 := by
  have hlength : (integerOctets value).length = integerSize value.toInt := Octets.length_bigEndian ..
  have := integerSize_mem value.toInt
  have := length_element_le (tagOf .integer) (integerOctets value)
  rw [writeInteger]
  omega

lemma capacity_mono {width width' : Nat} (h : width ≤ width') : Octets.capacity width ≤ Octets.capacity width' := by
  rw [Octets.capacity_eq_shiftLeft, Octets.capacity_eq_shiftLeft, Nat.one_shiftLeft, Nat.one_shiftLeft]
  exact Nat.pow_le_pow_right Nat.two_pos (Nat.mul_le_mul_left 8 h)

lemma octetCount_add_le (a b : Nat) : octetCount (a + b) ≤ max (octetCount a) (octetCount b) + 1 := by
  apply octetCount_le (Nat.succ_pos _)
  have ha := lt_capacity_octetCount a
  have hb := lt_capacity_octetCount b
  have ha' := capacity_mono (Nat.le_max_left (octetCount a) (octetCount b))
  have hb' := capacity_mono (Nat.le_max_right (octetCount a) (octetCount b))
  rw [Octets.capacity]
  omega

lemma octetCount_of_lt (h : n < 0x80) : octetCount n = 1 := by
  have hle : octetCount n ≤ 1 := octetCount_le Nat.one_pos (Nat.lt_trans h (by decide))
  exact Nat.le_antisymm hle (Nat.succ_pos _)

lemma length_lengthOctets_mono (h : n ≤ n') : (lengthOctets n).length ≤ (lengthOctets n').length := by
  have hcount : octetCount n ≤ octetCount n' :=
    octetCount_le (Nat.succ_pos _) (Nat.lt_of_le_of_lt h (lt_capacity_octetCount n'))
  rw [length_lengthOctets, length_lengthOctets]
  split <;> split <;> omega

lemma length_lengthOctets_add_le (a b : Nat) :
    (lengthOctets (a + b)).length ≤ (lengthOctets a).length + (lengthOctets b).length + 1 := by
  have hadd := octetCount_add_le a b
  have ha : a < 0x80 → octetCount a = 1 := octetCount_of_lt
  have hb : b < 0x80 → octetCount b = 1 := octetCount_of_lt
  rw [length_lengthOctets, length_lengthOctets, length_lengthOctets]
  split <;> split <;> split <;> omega

lemma length_lengthOctets_mul_lt (hk : 0 < k) (n : Nat) :
    (lengthOctets (k * n)).length + 1 ≤ k * ((lengthOctets n).length + 1) := by
  -- One more of `n` lengthens the length of the sum by no more than its own length and one.
  induction k, hk using Nat.le_induction with
  | base => rw [Nat.one_mul, Nat.one_mul]
  | succ k hk ih =>
    have hadd := length_lengthOctets_add_le (k * n) n
    rw [Nat.succ_mul, Nat.succ_mul]
    omega

lemma IsLength.length_le (h : IsLength n length) : (lengthOctets n).length ≤ length.length := by
  cases h with
  | short hn => rw [lengthOctets, if_pos hn]
  | long number hpos _ hnumber =>
    have hlt := Octets.ofBigEndian_lt number
    rw [hnumber] at hlt
    have hcount := octetCount_le hpos hlt
    rw [length_lengthOctets, List.length_cons]
    split <;> omega

end Lengths

namespace AtMost

variable {k : Nat} {written written' : Octets} {words words' tail : Language UInt8} {tag : UInt8}

lemma nil : AtMost k [] words :=
  fun _ _ => Nat.zero_le _

lemma append (h : AtMost k written words) (h' : AtMost k written' words') :
    AtMost k (written ++ written') (words * words') := by
  intro word hword
  obtain ⟨first, hfirst, second, hsecond, rfl⟩ := Language.mem_mul.mp hword
  have hle := h first hfirst
  have hle' := h' second hsecond
  rw [List.length_append, List.length_append, Nat.mul_add]
  omega

lemma mul_tail (h : AtMost k written words) : AtMost k written (words * tail) := by
  rw [← List.append_nil written]
  exact h.append .nil

lemma element (hk : 0 < k) (h : AtMost k written words) : AtMost k (Ber.element tag written) (elements tag words) := by
  rintro _ ⟨length, bs, hlength, hbs, rfl⟩
  have hcontents := h bs hbs
  have hheader : (lengthOctets written.length).length + 1 ≤ k * (length.length + 1) := by
    calc
      _ ≤ (lengthOctets (k * bs.length)).length + 1 := Nat.succ_le_succ (length_lengthOctets_mono hcontents)
      _ ≤ k * ((lengthOctets bs.length).length + 1) := length_lengthOctets_mul_lt hk bs.length
      _ ≤ k * (length.length + 1) := Nat.mul_le_mul_left k (Nat.succ_le_succ hlength.length_le)
  have hsplit : k * (length.length + bs.length + 1) = k * (length.length + 1) + k * bs.length := by
    rw [← Nat.mul_add]
    congr 1
    omega
  simp only [Ber.element, List.length_cons, List.length_append]
  omega

lemma flatMap {α : Type} {write : α → Octets} {words : α → Language UInt8} {values : List α}
    (h : ∀ value, AtMost k (write value) (words value)) :
    AtMost k (values.flatMap write) (values.map words).prod := by
  induction values with
  | nil => exact .nil
  | cons value values ih =>
    rw [List.flatMap_cons, List.map_cons, List.prod_cons]
    exact (h value).append ih

lemma list {α : Type} {type : BerType} {write : α → Octets} {words : α → Language UInt8} {values : List α}
    (hk : 0 < k) (h : ∀ value, AtMost k (write value) (words value)) :
    AtMost k (writeList type write values) (lists type words values) :=
  (flatMap h).element hk

lemma integerContents (hk : 0 < k) (value : Int32) : AtMost k (integerOctets value) (integerContents value) := by
  rintro _ ⟨width, hpos, _, hlow, hhigh, rfl⟩
  have hle := integerSize_le hpos hlow hhigh
  rw [integerOctets, Octets.length_bigEndian, Octets.length_bigEndian]
  exact Nat.le_trans hle (Nat.le_mul_of_pos_left width hk)

lemma integer (hk : 0 < k) (value : Int32) : AtMost k (writeInteger value) (integers value) :=
  (integerContents hk value).element hk

lemma enumerated (hk : 0 < k) (value : Int32) : AtMost k (writeEnumerated value) (enumerateds value) :=
  (integerContents hk value).element hk

lemma boolean (hk : 0 < k) (value : Bool) : AtMost k (writeBoolean value) (booleans value) := by
  have hcontents : AtMost k [if value then 0xff else 0] (booleanContents value) := by
    rintro _ ⟨b, -, rfl⟩
    exact Nat.le_mul_of_pos_left 1 hk
  exact hcontents.element hk

lemma octetString (hk : 0 < k) (bs : Octets) : AtMost k (writeOctets bs) (octetStrings bs) := by
  have hcontents : AtMost k bs {bs} := by
    rintro _ rfl
    exact Nat.le_mul_of_pos_left _ hk
  exact hcontents.element hk

lemma text {l : Leeway} (hl : l.Grows k) (s : String) : AtMost k (writeText s) (texts l s) :=
  (hl.text s).element hl.pos

end AtMost

def AtLeast (n : Nat) (words : Language UInt8) : Prop :=
  ∀ word ∈ words, n ≤ word.length

namespace AtLeast

variable {n n' : Nat} {words words' : Language UInt8}

lemma zero : AtLeast 0 words :=
  fun _ _ => Nat.zero_le _

lemma of_le (h : AtLeast n words) (hle : n' ≤ n) : AtLeast n' words :=
  fun word hword => Nat.le_trans hle (h word hword)

lemma mul (h : AtLeast n words) (h' : AtLeast n' words') : AtLeast (n + n') (words * words') := by
  intro word hword
  obtain ⟨first, hfirst, second, hsecond, rfl⟩ := Language.mem_mul.mp hword
  rw [List.length_append]
  exact Nat.add_le_add (h first hfirst) (h' second hsecond)

lemma element (h : AtLeast n words) (tag : UInt8) : AtLeast (n + 2) (elements tag words) := by
  rintro _ ⟨length, bs, hlength, hbs, rfl⟩
  have hcontents := h bs hbs
  have hpos : 0 < length.length := by cases hlength <;> exact Nat.succ_pos _
  rw [List.length_cons, List.length_append]
  omega

lemma prod {α : Type} {size : α → Nat} {words : α → Language UInt8} (h : ∀ value, AtLeast (size value) (words value))
    (values : List α) : AtLeast (values.map size).sum (values.map words).prod := by
  induction values with
  | nil => exact .zero
  | cons value values ih =>
    rw [List.map_cons, List.map_cons, List.sum_cons, List.prod_cons]
    exact (h value).mul ih

lemma list {α : Type} {words : α → Language UInt8} (size : α → Nat)
    (h : ∀ value, AtLeast (2 * size value + 2) (words value)) (type : BerType) (values : List α) :
    AtLeast (2 * (values.length + (values.map size).sum) + 2) (lists type words values) := by
  have hsum : (values.map fun value => 2 * size value + 2).sum = 2 * (values.length + (values.map size).sum) := by
    induction values with
    | nil => rfl
    | cons value values ih =>
      simp only [List.map_cons, List.sum_cons, List.length_cons, ih]
      omega
  rw [← hsum]
  exact (prod h values).element (tagOf type)

end AtLeast

end DomainLocator.Ber

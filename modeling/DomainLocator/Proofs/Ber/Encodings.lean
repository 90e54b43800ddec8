import DomainLocator.Ber.Lemmas
import DomainLocator.Text.Utf8.Lemmas
import Mathlib.Computability.Language
import Mathlib.Order.CompletePartialOrder

/-! The octets that stand for a value, as the words of a language. A length may be given in more octets than it takes,
and so may a number. -/

namespace DomainLocator.Ber

def Fits (bs : Octets) : Prop :=
  bs.length < Octets.capacity maxLengthOctets

inductive IsLength (n : Nat) : Octets → Prop
  | short : n < 0x80 → IsLength n [UInt8.ofNat n]
  | long (number : Octets) : 0 < number.length → number.length ≤ maxLengthOctets → Octets.ofBigEndian number = n →
      IsLength n (UInt8.ofNat (0x80 + number.length) :: number)

def elements (tag : UInt8) (contents : Language UInt8) : Language UInt8 :=
  {octets | ∃ length bs, IsLength bs.length length ∧ bs ∈ contents ∧ tag :: (length ++ bs) = octets}

lemma exists_cons_of_mem_elements {tag : UInt8} {contents : Language UInt8} {octets : Octets}
    (h : octets ∈ elements tag contents) : ∃ after, tag :: after = octets := by
  obtain ⟨length, bs, -, -, rfl⟩ := h
  exact ⟨length ++ bs, rfl⟩

def integerContents (value : Int32) : Language UInt8 :=
  {octets | ∃ width, 0 < width ∧ width ≤ 4 ∧ -(Octets.capacity width : Int) ≤ 2 * value.toInt ∧
    2 * value.toInt < Octets.capacity width ∧
    Octets.bigEndian width (value.toInt % Octets.capacity width).toNat = octets}

def integers (value : Int32) : Language UInt8 :=
  elements (tagOf .integer) (integerContents value)

def enumerateds (value : Int32) : Language UInt8 :=
  elements (tagOf .enumerated) (integerContents value)

def booleanContents (value : Bool) : Language UInt8 :=
  {octets | ∃ b : UInt8, (b != 0) = value ∧ [b] = octets}

def booleans (value : Bool) : Language UInt8 :=
  elements (tagOf .boolean) (booleanContents value)

def octetStrings (bs : Octets) : Language UInt8 :=
  elements (tagOf .octetString) {bs}

def lists {α : Type} (type : BerType) (words : α → Language UInt8) (values : List α) : Language UInt8 :=
  elements (tagOf type) (values.map words).prod

/-- What may stand for a text, and what may be left over at the end of a structure. -/
structure Leeway where
  text : String → Language UInt8
  tail : Language UInt8

namespace Leeway

def none : Leeway where
  text s := {Text.Utf8.encode s}
  tail := 1

def wellFormed : Leeway where
  text s := {bs | Text.Utf8.decode? bs = some s}
  tail := ⊤

def any : Leeway where
  text s := {bs | Text.Utf8.decodeLossy bs = s}
  tail := ⊤

structure Within (l l' : Leeway) : Prop where
  text : ∀ s, l.text s ≤ l'.text s
  tail : l.tail ≤ l'.tail

lemma none_within_any : none.Within any where
  text s := by
    rintro _ rfl
    exact Text.Utf8.decodeLossy_encode s
  tail := le_top

lemma wellFormed_within_any : wellFormed.Within any where
  text _ _ := Text.Utf8.decodeLossy_of_decode?
  tail := le_rfl

end Leeway

def texts (l : Leeway) (s : String) : Language UInt8 :=
  elements (tagOf .octetString) (l.text s)

section Mono

variable {tag : UInt8} {contents contents' : Language UInt8}

lemma elements_mono (h : contents ≤ contents') : elements tag contents ≤ elements tag contents' := by
  rintro octets ⟨length, bs, hlength, hbs, rfl⟩
  exact ⟨length, bs, hlength, h hbs, rfl⟩

lemma texts_mono {l l' : Leeway} (h : l.Within l') (s : String) : texts l s ≤ texts l' s :=
  elements_mono (h.text s)

lemma prod_map_mono {α : Type} {words words' : α → Language UInt8} {values : List α}
    (h : ∀ value, words value ≤ words' value) : (values.map words).prod ≤ (values.map words').prod := by
  induction values with
  | nil => exact le_rfl
  | cons value values ih =>
    rw [List.map_cons, List.map_cons, List.prod_cons, List.prod_cons]
    exact mul_le_mul' (h value) ih

lemma lists_mono {α : Type} {type : BerType} {words words' : α → Language UInt8} {values : List α}
    (h : ∀ value, words value ≤ words' value) : lists type words values ≤ lists type words' values :=
  elements_mono (prod_map_mono h)

end Mono

namespace Fits

variable {bs cs : Octets} {tag : UInt8}

lemma of_length_le (h : Fits cs) (hle : bs.length ≤ cs.length) : Fits bs :=
  Nat.lt_of_le_of_lt hle h

lemma left (h : Fits (bs ++ cs)) : Fits bs :=
  h.of_length_le (by simp)

lemma right (h : Fits (bs ++ cs)) : Fits cs :=
  h.of_length_le (by simp)

lemma contents (h : Fits (element tag bs)) : Fits bs := by
  apply h.of_length_le
  simp only [element, List.length_cons, List.length_append]
  omega

end Fits

section Writing

variable {bs : Octets} {tag : UInt8} {contents : Language UInt8}

lemma isLength_lengthOctets {n : Nat} (h : n < Octets.capacity maxLengthOctets) : IsLength n (lengthOctets n) := by
  rw [lengthOctets]
  split
  · exact .short ‹_›
  · have hlong : IsLength n (UInt8.ofNat (0x80 + (Octets.bigEndian (octetCount n) n).length) ::
        Octets.bigEndian (octetCount n) n) := by
      apply IsLength.long _
      · rw [Octets.length_bigEndian]
        exact Nat.succ_pos _
      · rw [Octets.length_bigEndian]
        exact octetCount_le (by decide) h
      · rw [Octets.ofBigEndian_bigEndian]
        exact Nat.mod_eq_of_lt (lt_capacity_octetCount n)
    rwa [Octets.length_bigEndian] at hlong

lemma element_mem (hfits : Fits bs) (h : bs ∈ contents) : element tag bs ∈ elements tag contents :=
  ⟨_, bs, isLength_lengthOctets hfits, h, rfl⟩

lemma integerOctets_mem (value : Int32) : integerOctets value ∈ integerContents value := by
  have hsize := integerSize_mem value.toInt
  obtain ⟨hlow, hhigh⟩ := integerSize_bounds value
  exact ⟨integerSize value.toInt, by omega, by omega, hlow, hhigh, rfl⟩

lemma writeInteger_mem (value : Int32) : writeInteger value ∈ integers value :=
  element_mem (length_integerOctets_lt value) (integerOctets_mem value)

lemma writeEnumerated_mem (value : Int32) : writeEnumerated value ∈ enumerateds value :=
  element_mem (length_integerOctets_lt value) (integerOctets_mem value)

lemma writeBoolean_mem (value : Bool) : writeBoolean value ∈ booleans value := by
  have hone : 1 < Octets.capacity maxLengthOctets := by decide
  refine element_mem hone ⟨_, ?_, rfl⟩
  cases value <;> rfl

lemma writeOctets_mem (hfits : Fits (writeOctets bs)) : writeOctets bs ∈ octetStrings bs :=
  element_mem hfits.contents rfl

lemma writeText_mem {s : String} (hfits : Fits (writeText s)) : writeText s ∈ texts .none s :=
  element_mem hfits.contents rfl

lemma flatMap_mem {α : Type} {write : α → Octets} {words : α → Language UInt8} {values : List α}
    (hfits : Fits (values.flatMap write)) (h : ∀ value ∈ values, Fits (write value) → write value ∈ words value) :
    values.flatMap write ∈ (values.map words).prod := by
  induction values with
  | nil => exact Language.nil_mem_one
  | cons value values ih =>
    rw [List.flatMap_cons] at hfits ⊢
    rw [List.map_cons, List.prod_cons]
    refine Language.append_mem_mul (h value List.mem_cons_self hfits.left) (ih hfits.right ?_)
    exact fun v hv => h v (.tail _ hv)

lemma writeList_mem {α : Type} {type : BerType} {write : α → Octets} {words : α → Language UInt8} {values : List α}
    (hfits : Fits (writeList type write values))
    (h : ∀ value ∈ values, Fits (write value) → write value ∈ words value) :
    writeList type write values ∈ lists type words values :=
  element_mem hfits.contents (flatMap_mem hfits.contents h)

end Writing

end DomainLocator.Ber

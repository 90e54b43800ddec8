import DomainLocator.Ber.Value

namespace DomainLocator.Octets

theorem capacity_eq_shiftLeft (width : Nat) : capacity width = 1 <<< (8 * width) := by
  induction width with
  | zero => rfl
  | succ width ih =>
    rw [capacity, ih, Nat.one_shiftLeft, Nat.one_shiftLeft, Nat.mul_succ, Nat.pow_add]
    omega

end DomainLocator.Octets

namespace DomainLocator.Ber

theorem lt_capacity_octetCount (n : Nat) : n < Octets.capacity (octetCount n) := by
  rw [Octets.capacity_eq_shiftLeft, Nat.one_shiftLeft]
  by_cases h : n = 0
  · subst h
    exact Nat.two_pow_pos _
  · rw [← Nat.log2_lt h, octetCount]
    omega

theorem octetCount_le {n width : Nat} (hw : 0 < width) (h : n < Octets.capacity width) : octetCount n ≤ width := by
  rw [octetCount]
  by_cases h0 : n = 0
  · subst h0
    exact hw
  · rw [Octets.capacity_eq_shiftLeft, Nat.one_shiftLeft, ← Nat.log2_lt h0] at h
    omega

theorem integerSize_mem (value : Int) :
    integerSize value = 1 ∨ integerSize value = 2 ∨ integerSize value = 3 ∨ integerSize value = 4 := by
  unfold integerSize
  repeat' split
  all_goals simp

theorem integerSize_bounds (value : Int32) :
    -(Octets.capacity (integerSize value.toInt) : Int) ≤ 2 * value.toInt ∧
      2 * value.toInt < Octets.capacity (integerSize value.toInt) := by
  have hlo := value.le_toInt
  have hhi := value.toInt_lt
  unfold integerSize
  repeat' split
  all_goals
    simp only [Octets.capacity]
    omega

theorem integerSize_le {value : Int} {width : Nat} (hpos : 0 < width)
    (hlow : -(Octets.capacity width : Int) ≤ 2 * value) (hhigh : 2 * value < Octets.capacity width) :
    integerSize value ≤ width := by
  have hwidth : (width = 1 ∨ width = 2 ∨ width = 3) ∨ 4 ≤ width := by omega
  rcases hwidth with hwidth | hwidth
  · unfold integerSize
    rcases hwidth with rfl | rfl | rfl
    all_goals
      simp only [Octets.capacity] at hlow hhigh
      repeat' split
      all_goals omega
  · have := integerSize_mem value
    omega

theorem length_integerOctets_lt (value : Int32) :
    (integerOctets value).length < Octets.capacity maxLengthOctets := by
  have hlen : (integerOctets value).length = integerSize value.toInt := Octets.length_bigEndian ..
  have := integerSize_mem value.toInt
  have : 4 < Octets.capacity maxLengthOctets := by decide
  omega

end DomainLocator.Ber

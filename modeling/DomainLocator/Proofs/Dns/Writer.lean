import DomainLocator.Dns.Record
import DomainLocator.Proofs.Buffer

/-! What a write adds to a message depends on the offset where it begins and on the table of suffixes, but not on the
octets before it. So a length that is put in after its contents might as well have stood there before them. -/

namespace DomainLocator.Dns

lemma bind_eq_ok_iff {ε α β : Type} {x : Except ε α} {f : α → Except ε β} {b : β} :
    x >>= f = .ok b ↔ ∃ a, x = .ok a ∧ f a = .ok b := by
  cases x <;> simp [bind, Except.bind]

lemma bind_eq_error_iff {ε α β : Type} {x : Except ε α} {f : α → Except ε β} {e : ε} :
    x >>= f = .error e ↔ x = .error e ∨ ∃ a, x = .ok a ∧ f a = .error e := by
  cases x <;> simp [bind, Except.bind]

lemma mapError_eq_ok_iff {ε ε' α : Type} {x : Except ε α} {f : ε → ε'} {a : α} : x.mapError f = .ok a ↔ x = .ok a := by
  cases x <;> simp [Except.mapError]

namespace Writer

variable {w w' : Writer} {write next : Writer → Except Interrupted Writer} {n : Nat}

lemma append_append (w : Writer) (xs ys : Octets) : (w.append xs).append ys = w.append (xs ++ ys) := by
  simp only [append, append_octets_append]

lemma word16_eq (w : Writer) (n : UInt16) : w.word16 n = w.append (Octets.bigEndian 2 n.toNat) := rfl

lemma word32_eq (w : Writer) (n : UInt32) : w.word32 n = w.append (Octets.bigEndian 4 n.toNat) := rfl

lemma count_eq_ok (h : w.count n = .ok w') : n ≤ 0xffff ∧ w' = w.append (Octets.bigEndian 2 n) := by
  rw [count] at h
  split at h
  · cases h
    exact ⟨‹_›, rfl⟩
  · contradiction

lemma count_of_le (h : n ≤ 0xffff) (w : Writer) : w.count n = .ok (w.append (Octets.bigEndian 2 n)) :=
  if_pos h

lemma toNat_ofNat_count (h : n ≤ 0xffff) : (UInt16.ofNat n).toNat = n :=
  UInt16.toNat_ofNat_of_lt' (Nat.lt_succ_of_le h)

/-- The write adds the same octets wherever the same number of octets stands before them. -/
def Appends (write : Writer → Except Interrupted Writer) : Prop :=
  ∀ w w', write w = .ok w' → ∃ added : Octets, w'.octets = w.octets ++ added ∧
    ∀ octets : Array UInt8, octets.size = w.octets.size →
      write { w with octets } = .ok { w' with octets := octets ++ added }

namespace Appends

lemma append (bs : Octets) : Appends fun w => .ok (w.append bs) := by
  intro w w' h
  cases h
  exact ⟨bs, rfl, fun _ _ => rfl⟩

lemma note (suffix : List String) : Appends fun w => .ok (w.note suffix) := by
  intro w w' h
  cases h
  refine ⟨[], by simp, ?_⟩
  intro octets hsize
  simp only [Writer.note, hsize]
  split <;> simp

lemma stop (cause : WireError) : Appends fun w => .error ⟨cause, w⟩ := by
  intro w w' h
  contradiction

lemma bind (hw : Appends write) (hn : Appends next) : Appends fun w => write w >>= next := by
  intro w w' h
  obtain ⟨v, hv, h⟩ := bind_eq_ok_iff.mp h
  obtain ⟨first, hf, hfirst⟩ := hw w v hv
  obtain ⟨second, hs, hsecond⟩ := hn v w' h
  refine ⟨first ++ second, by rw [hs, hf, append_octets_append], ?_⟩
  intro octets hsize
  have hsize' : (octets ++ first).size = v.octets.size := by
    rw [hf, size_append_octets, size_append_octets, hsize]
  rw [bind_eq_ok_iff]
  exact ⟨_, hfirst octets hsize, by rw [hsecond _ hsize', append_octets_append]⟩

lemma of_suffixes (h : ∀ suffixes : SuffixTable, ∃ branch, Appends branch ∧
    ∀ octets, write ⟨octets, suffixes⟩ = branch ⟨octets, suffixes⟩) : Appends write := by
  intro w w' hw
  obtain ⟨branch, hb, heq⟩ := h w.suffixes
  obtain ⟨added, ha, hadded⟩ := hb w w' ((heq w.octets).symm.trans hw)
  exact ⟨added, ha, fun octets hsize => (heq octets).trans (hadded octets hsize)⟩

end Appends

end Writer

namespace Name

lemma writeLabels_appends (n : Name) (compress : Bool) (labels : List String) :
    Writer.Appends (n.writeLabels compress labels) := by
  induction labels with
  | nil => exact .append [0]
  | cons label rest ih =>
    apply Writer.Appends.of_suffixes
    intro suffixes
    let literal := UInt8.ofNat (Text.Utf8.encode label).length :: Text.Utf8.encode label
    simp only [writeLabels]
    split
    · split
      · exact ⟨_, .append [0], fun _ => rfl⟩
      · exact ⟨_, .stop (.emptyLabel n.dotted), fun _ => rfl⟩
    split
    · exact ⟨_, .stop (.labelTooLong _ label), fun _ => rfl⟩
    split
    · rename_i target _
      split
      · exact ⟨_, .append (Octets.bigEndian 2 (0xc000 + target)), fun _ => rfl⟩
      · exact ⟨_, .bind (.append literal) ih, fun _ => rfl⟩
    · exact ⟨_, .bind (.note (label :: rest)) (.bind (.append literal) ih), fun _ => rfl⟩

lemma write_appends (n : Name) (compress : Bool) : Writer.Appends (n.write compress) :=
  n.writeLabels_appends compress n.labels

end Name

lemma RecordData.write_appends (d : RecordData) : Writer.Appends d.write := by
  cases d with
  | a addr => exact .append addr.octets
  | aaaa addr => exact .append addr.octets
  | soa s =>
    have hnumbers := Writer.Appends.append (Octets.bigEndian 4 s.serial.toNat ++ Octets.bigEndian 4 s.refresh.toNat ++
      Octets.bigEndian 4 s.retry.toNat ++ Octets.bigEndian 4 s.expire.toNat ++ Octets.bigEndian 4 s.minimum.toNat)
    have h := (s.primary.write_appends true).bind ((s.mailbox.write_appends true).bind hnumbers)
    simp only [← Writer.append_append] at h
    exact h
  | srv s =>
    have hnumbers := Writer.Appends.append (Octets.bigEndian 2 s.priority.toNat ++ Octets.bigEndian 2 s.weight.toNat ++
      Octets.bigEndian 2 s.port.toNat)
    have h := hnumbers.bind (s.target.write_appends false)
    simp only [← Writer.append_append] at h
    exact h

lemma Writer.patch16_append (bs : Array UInt8) (added : Octets) (suffixes : SuffixTable) (n : Nat) :
    patch16 ⟨bs ++ [(0 : UInt8), 0] ++ added, suffixes⟩ bs.size n =
      ⟨bs ++ Octets.bigEndian 2 n ++ added, suffixes⟩ := by
  have hn : Octets.bigEndian 2 n = [UInt8.ofNat (n / 256), UInt8.ofNat n] := rfl
  simp only [patch16, append_octets_append, hn]
  congr 1
  apply Array.toList_inj.mp
  simp

lemma Record.writeData_eq_ok {d : RecordData} {w w' : Writer}
    (h : writeData d w.octets.size (w.append [0, 0]) = .ok w') : ∃ length, length ≤ 0xffff ∧
      d.write (w.append (Octets.bigEndian 2 length)) = .ok w' ∧ w'.octets.size = w.octets.size + 2 + length := by
  obtain ⟨v, hv, h⟩ := bind_eq_ok_iff.mp h
  obtain ⟨added, ha, hadded⟩ := d.write_appends _ _ hv
  obtain ⟨octets, suffixes⟩ := v
  subst ha
  have hlength : (w.octets ++ [(0 : UInt8), 0] ++ added).size - (w.octets.size + 2) = added.length := by
    simp only [size_append_octets, List.length_cons, List.length_nil]
    omega
  simp only [Writer.octets_append, hlength, Writer.patch16_append] at h
  split at h
  · cases h
    refine ⟨added.length, ‹_›, ?_, ?_⟩
    · exact hadded (w.octets ++ Octets.bigEndian 2 added.length) (by simp [size_append_octets])
    · simp [size_append_octets]
  · contradiction

end DomainLocator.Dns

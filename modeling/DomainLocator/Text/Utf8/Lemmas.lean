import DomainLocator.Text.Utf8

namespace DomainLocator.Text.Utf8

open DomainLocator

theorem tails_cons {owed low high bits b : Nat} (hb : b < 0x100) (hr : low ≤ b ∧ b ≤ high) (rest : Octets) :
    tails (owed + 1) low high bits (UInt8.ofNat b :: rest) =
      tails owed 0x80 0xbf (bits * 64 + (b - 0x80)) rest := by
  have : (UInt8.ofNat b).toNat = b := by simpa using hb
  simp only [tails, this, if_pos hr]

theorem lead?_two {n : Nat} (hlo : 2 ≤ n) (hhi : n < 0x20) : lead? (n + 0xc0) = some ⟨1, 0x80, 0xbf, n⟩ := by
  simp only [lead?]
  rw [if_neg (by omega), if_neg (by omega), if_pos (by omega), Nat.add_sub_cancel]

theorem lead?_three {n : Nat} (h : n < 0x10) :
    lead? (n + 0xe0) = some ⟨2, if n = 0 then 0xa0 else 0x80, if n = 0xd then 0x9f else 0xbf, n⟩ := by
  have : n = 0 ∨ n = 1 ∨ n = 2 ∨ n = 3 ∨ n = 4 ∨ n = 5 ∨ n = 6 ∨ n = 7 ∨ n = 8 ∨ n = 9 ∨ n = 10 ∨ n = 11 ∨
      n = 12 ∨ n = 13 ∨ n = 14 ∨ n = 15 := by omega
  rcases this with rfl | rfl | rfl | rfl | rfl | rfl | rfl | rfl | rfl | rfl | rfl | rfl | rfl | rfl | rfl | rfl <;> rfl

theorem lead?_four {n : Nat} (h : n < 5) :
    lead? (n + 0xf0) = some ⟨3, if n = 0 then 0x90 else 0x80, if n = 4 then 0x8f else 0xbf, n⟩ := by
  have : n = 0 ∨ n = 1 ∨ n = 2 ∨ n = 3 ∨ n = 4 := by omega
  rcases this with rfl | rfl | rfl | rfl | rfl <;> rfl

theorem next_utf8EncodeChar (c : Char) (rest : Octets) :
    ∃ b tail, String.utf8EncodeChar c = b :: tail ∧ next b (tail ++ rest) = (some c, rest) := by
  have hv : c.toNat < 0xd800 ∨ 0xdfff < c.toNat ∧ c.toNat < 0x110000 := c.valid
  have hc : Char.ofNat c.toNat = c := Char.ofNat_toNat c
  have hval : c.val.toNat = c.toNat := rfl
  simp only [String.utf8EncodeChar, hval]
  generalize c.toNat = v at *
  have hn : ∀ {b : Nat} {l : Lead} {tail : Octets}, b < 0x100 → lead? b = some l →
      tails l.owed l.low l.high l.bits (tail ++ rest) = (some v, rest) →
      next (UInt8.ofNat b) (tail ++ rest) = (some c, rest) := by
    intro b l tail hb hl ht
    have : (UInt8.ofNat b).toNat = b := by simpa using hb
    simp only [next, this, hl, ht, Option.map_some, hc]
  split
  · have hl : lead? v = some ⟨0, 0x80, 0xbf, v⟩ := if_pos ‹_›
    exact ⟨_, [], rfl, hn (by omega) hl (by simp only [tails, List.nil_append])⟩
  have heq : ∀ {n : Nat}, n = v → (some n, rest) = (some v, rest) := by rintro _ rfl; rfl
  split
  · refine ⟨_, [_], rfl, hn (by omega) (lead?_two (by omega) (by omega)) ?_⟩
    dsimp only [List.cons_append, List.nil_append]
    rw [tails_cons (by omega) (by omega), tails]
    exact heq (by omega)
  split
  · refine ⟨_, [_, _], rfl, hn (by omega) (lead?_three (by omega)) ?_⟩
    dsimp only [List.cons_append, List.nil_append]
    rw [tails_cons (by omega) (by split <;> split <;> omega), tails_cons (by omega) (by omega), tails]
    exact heq (by omega)
  · refine ⟨_, [_, _, _], rfl, hn (by omega) (lead?_four (by omega)) ?_⟩
    dsimp only [List.cons_append, List.nil_append]
    rw [tails_cons (by omega) (by split <;> split <;> omega), tails_cons (by omega) (by omega),
      tails_cons (by omega) (by omega), tails]
    exact heq (by omega)

theorem scan_encode (s : String) : scan (encode s) = s.toList.map some := by
  unfold encode
  induction s.toList with
  | nil => exact scan_nil
  | cons c cs ih =>
    obtain ⟨b, tail, hb, hn⟩ := next_utf8EncodeChar c (cs.flatMap String.utf8EncodeChar)
    rw [List.flatMap_cons, hb, List.cons_append, scan_cons, hn, ih, List.map_cons]

@[simp]
theorem decodeLossy_encode (s : String) : decodeLossy (encode s) = s := by
  rw [decodeLossy, scan_encode, List.map_map]
  simp [Function.comp_def]

@[simp]
theorem decode?_encode (s : String) : decode? (encode s) = some s := by
  have h : ∀ cs : List Char, (cs.map some).mapM id = some cs := by
    intro cs
    induction cs with
    | nil => rfl
    | cons c cs ih => simp [ih]
  rw [decode?, scan_encode, h, Option.map_some, String.ofList_toList]

variable {b : UInt8} {bs rest rest' : Octets} {c : Char} {owed low high bits v : Nat} {l : Lead}

theorem tails_zero_eq_some (h : tails 0 low high bits bs = (some v, rest)) : v = bits ∧ bs = rest := by
  simp only [tails, Prod.mk.injEq, Option.some.injEq] at h
  exact ⟨h.1.symm, h.2⟩

theorem tails_eq_some (h : tails (owed + 1) low high bits bs = (some v, rest)) :
    ∃ b more, bs = b :: more ∧ low ≤ b.toNat ∧ b.toNat ≤ high ∧
      tails owed 0x80 0xbf (bits * 64 + (b.toNat - 0x80)) more = (some v, rest) := by
  cases bs with
  | nil => simp [tails] at h
  | cons b bs =>
    rw [tails] at h
    split at h
    · exact ⟨b, bs, rfl, ‹_ ∧ _›.1, ‹_ ∧ _›.2, h⟩
    · simp at h

theorem lead?_eq_some {n : Nat} (h : lead? n = some l) :
    l.owed = 0 ∧ n ≤ 0x7f ∧ l.bits = n ∨
    l.owed = 1 ∧ l.bits + 0xc0 = n ∧ 2 ≤ l.bits ∧ l.bits < 0x20 ∧ 0x80 ≤ l.low ∧ l.high ≤ 0xbf ∨
    l.owed = 2 ∧ l.bits + 0xe0 = n ∧ l.bits < 0x10 ∧ 0x80 ≤ l.low ∧ l.high ≤ 0xbf ∧
      (l.bits ≠ 0 ∨ 0xa0 ≤ l.low) ∧ (l.bits ≠ 0xd ∨ l.high ≤ 0x9f) ∨
    l.owed = 3 ∧ l.bits + 0xf0 = n ∧ l.bits < 5 ∧ 0x80 ≤ l.low ∧ l.high ≤ 0xbf ∧
      (l.bits ≠ 0 ∨ 0x90 ≤ l.low) ∧ (l.bits ≠ 4 ∨ l.high ≤ 0x8f) := by
  unfold lead? at h
  repeat' split at h
  all_goals first
    | contradiction
    | cases h
      grind

theorem toNat_ofNat_of_valid (hv : v < 0xd800 ∨ 0xdfff < v ∧ v < 0x110000) : (Char.ofNat v).val.toNat = v := by
  have h : v.isValidChar := hv
  rw [Char.ofNat, dif_pos h]
  rfl

theorem ofNat_eq_of_toNat {n : Nat} (h : n = b.toNat) : UInt8.ofNat n = b := by
  rw [h, UInt8.ofNat_toNat]

theorem utf8EncodeChar_eq (h : c.val.toNat = v) : String.utf8EncodeChar c =
    if v ≤ 0x7f then [UInt8.ofNat v]
    else if v ≤ 0x7ff then [UInt8.ofNat (v / 64 % 32 + 0xc0), UInt8.ofNat (v % 64 + 0x80)]
    else if v ≤ 0xffff then
      [UInt8.ofNat (v / 4096 % 16 + 0xe0), UInt8.ofNat (v / 64 % 64 + 0x80), UInt8.ofNat (v % 64 + 0x80)]
    else [UInt8.ofNat (v / 262144 % 8 + 0xf0), UInt8.ofNat (v / 4096 % 64 + 0x80), UInt8.ofNat (v / 64 % 64 + 0x80),
      UInt8.ofNat (v % 64 + 0x80)] := by
  subst h
  rfl

theorem utf8EncodeChar_of_next (h : next b rest = (some c, rest')) : b :: rest = String.utf8EncodeChar c ++ rest' := by
  unfold next at h
  split at h
  · simp at h
  rename_i l hl
  generalize ht : tails l.owed l.low l.high l.bits rest = found at h
  obtain ⟨v, left⟩ := found
  cases v with
  | none => simp at h
  | some v =>
  simp only [Option.map_some, Prod.mk.injEq, Option.some.injEq] at h
  obtain ⟨rfl, rfl⟩ := h
  rcases lead?_eq_some hl with ⟨ho, hn, hb⟩ | ⟨ho, hn, hb⟩ | ⟨ho, hn, hb⟩ | ⟨ho, hn, hb⟩
  all_goals rw [ho] at ht
  · obtain ⟨hv, rfl⟩ := tails_zero_eq_some ht
    rw [utf8EncodeChar_eq (toNat_ofNat_of_valid (by omega)), if_pos (by omega), ofNat_eq_of_toNat (b := b) (by omega)]
    rfl
  · obtain ⟨t₁, more, rfl, hlo, hhi, ht⟩ := tails_eq_some ht
    obtain ⟨hv, rfl⟩ := tails_zero_eq_some ht
    rw [utf8EncodeChar_eq (toNat_ofNat_of_valid (by omega)), if_neg (by omega), if_pos (by omega),
      ofNat_eq_of_toNat (b := b) (by omega), ofNat_eq_of_toNat (b := t₁) (by omega)]
    rfl
  · obtain ⟨t₁, more, rfl, hlo, hhi, ht⟩ := tails_eq_some ht
    obtain ⟨t₂, more, rfl, hlo₂, hhi₂, ht⟩ := tails_eq_some ht
    obtain ⟨hv, rfl⟩ := tails_zero_eq_some ht
    rw [utf8EncodeChar_eq (toNat_ofNat_of_valid (by omega)), if_neg (by omega), if_neg (by omega), if_pos (by omega),
      ofNat_eq_of_toNat (b := b) (by omega), ofNat_eq_of_toNat (b := t₁) (by omega), ofNat_eq_of_toNat (b := t₂) (by omega)]
    rfl
  · obtain ⟨t₁, more, rfl, hlo, hhi, ht⟩ := tails_eq_some ht
    obtain ⟨t₂, more, rfl, hlo₂, hhi₂, ht⟩ := tails_eq_some ht
    obtain ⟨t₃, more, rfl, hlo₃, hhi₃, ht⟩ := tails_eq_some ht
    obtain ⟨hv, rfl⟩ := tails_zero_eq_some ht
    rw [utf8EncodeChar_eq (toNat_ofNat_of_valid (by omega)), if_neg (by omega), if_neg (by omega), if_neg (by omega),
      ofNat_eq_of_toNat (b := b) (by omega), ofNat_eq_of_toNat (b := t₁) (by omega), ofNat_eq_of_toNat (b := t₂) (by omega),
      ofNat_eq_of_toNat (b := t₃) (by omega)]
    rfl

theorem eq_map_some_of_mapM {found : List (Option Char)} {cs : List Char} (h : found.mapM id = some cs) :
    found = cs.map some := by
  induction found generalizing cs with
  | nil =>
    cases h
    rfl
  | cons x found ih =>
    simp only [List.mapM_cons, id_eq, Option.bind_eq_bind, Option.bind_eq_some_iff] at h
    obtain ⟨c, rfl, cs, hcs, h⟩ := h
    cases h
    rw [ih hcs, List.map_cons]

theorem flatMap_utf8EncodeChar_of_scan {cs : List Char} (h : scan bs = cs.map some) :
    cs.flatMap String.utf8EncodeChar = bs := by
  induction cs generalizing bs with
  | nil =>
    cases bs with
    | nil => rfl
    | cons b rest => simp [scan_cons] at h
  | cons c cs ih =>
    cases bs with
    | nil => simp at h
    | cons b rest =>
      rw [scan_cons, List.map_cons, List.cons.injEq] at h
      rw [List.flatMap_cons, ih h.2, ← utf8EncodeChar_of_next (Prod.ext h.1 rfl)]

theorem encode_of_decode? {s : String} (h : decode? bs = some s) : encode s = bs := by
  obtain ⟨cs, hc, rfl⟩ := Option.map_eq_some_iff.mp h
  rw [encode, String.toList_ofList, flatMap_utf8EncodeChar_of_scan (eq_map_some_of_mapM hc)]

theorem decodeLossy_of_decode? {s : String} (h : decode? bs = some s) : decodeLossy bs = s := by
  rw [← encode_of_decode? h, decodeLossy_encode]

theorem length_encode_decodeLossy_le (bs : Octets) : (encode (decodeLossy bs)).length ≤ 3 * bs.length := by
  have hencode : encode (decodeLossy bs) = (scan bs).flatMap fun c => String.utf8EncodeChar (c.getD '\ufffd') := by
    rw [encode, decodeLossy, String.toList_ofList, List.flatMap_map]
  rw [hencode]
  clear hencode
  induction hn : bs.length using Nat.strongRecOn generalizing bs with
  | ind n ih =>
    subst hn
    cases bs with
    | nil => simp
    | cons b rest =>
      have hle := next_length_le b rest
      have hrest := ih _ (Nat.lt_succ_of_le hle) (next b rest).2 rfl
      rw [scan_cons, List.flatMap_cons, List.length_append, List.length_cons]
      cases hc : (next b rest).1 with
      | none =>
        have hthree : (String.utf8EncodeChar '\ufffd').length = 3 := rfl
        rw [Option.getD_none, hthree]
        omega
      | some c =>
        have hnext : next b rest = (some c, (next b rest).2) := Prod.ext hc rfl
        have hlength := congrArg List.length (utf8EncodeChar_of_next hnext)
        rw [List.length_cons, List.length_append] at hlength
        rw [Option.getD_some]
        omega

end DomainLocator.Text.Utf8

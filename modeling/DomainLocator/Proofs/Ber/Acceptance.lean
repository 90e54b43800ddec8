import DomainLocator.Proofs.Ber.Encodings

/-! A reader takes from the front of its input exactly the words of the value it gives, and gives a value for each of
them. So what it makes of some octets can be told from their language alone. -/

namespace DomainLocator.Ber

def Decodes {α : Type} (decode : Octets → Except WireError α) (words : α → Language UInt8)
    (good : α → Prop := fun _ => True) : Prop :=
  ∀ octets value, decode octets = .ok value ↔ good value ∧ octets ∈ words value

def Reading.Takes {α : Type} (reading : Reading α) (words : α → Language UInt8) (good : α → Prop := fun _ => True) :
    Prop :=
  ∀ input value rest, reading.run input = .ok (value, rest) ↔
    good value ∧ ∃ taken ∈ words value, taken ++ rest = input

section Elements

variable {tag first : UInt8} {n : Nat} {bs input after rest : Octets}

lemma readLength_eq_ok_iff : readLength first after = .ok (n, rest) ↔
    ∃ length, IsLength n length ∧ length ++ rest = first :: after := by
  constructor
  · intro h
    simp only [readLength] at h
    split at h
    · cases h
      exact ⟨_, .short ‹_›, by rw [UInt8.ofNat_toNat]; rfl⟩
    split at h
    · simp at h
    split at h
    · simp at h
    split at h
    · simp at h
    rename_i number rest' hs
    cases h
    obtain ⟨rfl, hcount⟩ := Octets.split?_eq_some hs
    refine ⟨_, .long number (by omega) (by omega) rfl, ?_⟩
    have hfirst : 0x80 + number.length = first.toNat := by omega
    rw [hfirst, UInt8.ofNat_toNat]
    rfl
  · rintro ⟨length, hlength, heq⟩
    cases hlength with
    | short hn =>
      obtain ⟨rfl, rfl⟩ := List.cons.inj heq
      have hfirst : (UInt8.ofNat n).toNat = n := UInt8.toNat_ofNat_of_lt' (Nat.lt_trans hn (by decide))
      simp only [readLength, hfirst]
      rw [if_pos hn]
      rfl
    | long number hpos hle hnumber =>
      obtain ⟨rfl, rfl⟩ := List.cons.inj (List.cons_append.symm.trans heq)
      have hmax : 0x80 + maxLengthOctets < UInt8.size := by decide
      have hfirst : (UInt8.ofNat (0x80 + number.length)).toNat = 0x80 + number.length :=
        UInt8.toNat_ofNat_of_lt' (by omega)
      simp only [readLength, hfirst, Nat.add_sub_cancel_left]
      rw [if_neg (by omega), if_neg (by omega), if_neg (by omega), Octets.split?_append]
      simp only [hnumber]

lemma next_read_eq_ok_iff : read.next input = .ok (⟨tag, bs⟩, rest) ↔
    numberOf tag ≠ 31 ∧ ∃ length, IsLength bs.length length ∧ tag :: (length ++ bs ++ rest) = input := by
  constructor
  · intro h
    rw [Item.next] at h
    split at h
    · contradiction
    rename_i found hf
    obtain ⟨e, rest', shorter⟩ := found
    cases h
    match input, shorter, hf with
    | first :: second :: after, shorter, hf =>
      rw [read] at hf
      split at hf
      · simp at hf
      split at hf
      · simp at hf
      split at hf
      · simp at hf
      cases hf
      rename_i n body hl _ htag hb
      obtain ⟨length, hlength, heq⟩ := readLength_eq_ok_iff.mp hl
      obtain ⟨rfl, rfl⟩ := Octets.split?_eq_some hb
      exact ⟨htag, length, hlength, by rw [List.append_assoc, heq]⟩
  · rintro ⟨htag, length, hlength, rfl⟩
    obtain ⟨first, after, heq⟩ : ∃ first after, length ++ (bs ++ rest) = first :: after := by
      cases hlength <;> exact ⟨_, _, rfl⟩
    have hl := readLength_eq_ok_iff.mpr ⟨length, hlength, heq⟩
    have hs := Octets.split?_append bs rest
    rw [List.append_assoc, heq]
    simp only [Item.next, read, if_neg htag]
    grind

lemma exists_next_read_iff (htag : numberOf tag ≠ 31) {contents : Language UInt8} :
    (∃ bs, read.next input = .ok (⟨tag, bs⟩, rest) ∧ bs ∈ contents) ↔
      ∃ taken ∈ elements tag contents, taken ++ rest = input := by
  constructor
  · rintro ⟨bs, hread, hmem⟩
    obtain ⟨-, length, hlength, rfl⟩ := next_read_eq_ok_iff.mp hread
    exact ⟨_, ⟨length, bs, hlength, hmem, rfl⟩, rfl⟩
  · rintro ⟨_, ⟨length, bs, hlength, hmem, rfl⟩, rfl⟩
    exact ⟨bs, next_read_eq_ok_iff.mpr ⟨htag, length, hlength, rfl⟩, hmem⟩

end Elements

variable {α β γ : Type} {words : α → Language UInt8} {good : α → Prop}

lemma next_andThen_eq_ok_iff {item : Item α} {f : α → Except WireError β} {input rest : Octets} {b : β} :
    (item.andThen f).next input = .ok (b, rest) ↔ ∃ a, item.next input = .ok (a, rest) ∧ f a = .ok b := by
  simp only [Item.next, Item.andThen]
  cases item input with
  | error e => simp
  | ok found =>
    cases hf : f found.value with
    | error e => simp [hf]
    | ok value => simp [hf, and_comm]

def Item.Reads (item : Item α) (written : Octets) (value : α) : Prop :=
  ∀ rest, item.next (written ++ rest) = .ok (value, rest)

lemma Reading.Takes.reads {item : Item α} (h : Takes item.next words good) {written : Octets} {value : α}
    (hgood : good value) (hmem : written ∈ words value) : item.Reads written value :=
  fun _ => (h ..).mpr ⟨hgood, written, hmem, rfl⟩

namespace Decodes

variable {decode : Octets → Except WireError α}

lemma takes (h : Decodes decode words good) (type : BerType) :
    Reading.Takes ((ofType type).andThen decode).next (fun value => elements (tagOf type) (words value)) good := by
  intro input value rest
  have htag : numberOf (tagOf type) ≠ 31 := by cases type <;> decide
  simp only [StateT.run, next_andThen_eq_ok_iff, ofType, ← exists_next_read_iff htag]
  constructor
  · rintro ⟨contents, ⟨e, hread, he⟩, hdecode⟩
    split at he
    · cases he
      obtain ⟨_, contents⟩ := e
      subst ‹_ = tagOf type›
      obtain ⟨hgood, hmem⟩ := (h contents value).mp hdecode
      exact ⟨hgood, contents, hread, hmem⟩
    · contradiction
  · rintro ⟨hgood, contents, hread, hmem⟩
    exact ⟨contents, ⟨_, hread, if_pos rfl⟩, (h contents value).mpr ⟨hgood, hmem⟩⟩

end Decodes

lemma map_eq_ok_iff {x : Except WireError α} {f : α → β} {b : β} : x.map f = .ok b ↔ ∃ a, x = .ok a ∧ f a = b := by
  cases x <;> simp [Except.map]

section Within

variable {reading : Reading α} {go : α → Reading β} {rest : β → Language UInt8} {target : β → Prop}

lemma within_eq_ok_iff {contents : Octets} {value : α} : reading.within contents = .ok value ↔
    ∃ rest, reading.run contents = .ok (value, rest) := by
  rw [Reading.within, map_eq_ok_iff]
  simp

lemma run_bind_eq_ok_iff {input after : Octets} {b : β} : (reading >>= go).run input = .ok (b, after) ↔
    ∃ a mid, reading.run input = .ok (a, mid) ∧ (go a).run mid = .ok (b, after) := by
  rw [StateT.run_bind]
  cases reading.run input with
  | error e => simp [bind, Except.bind]
  | ok found =>
    obtain ⟨a, mid⟩ := found
    simp [bind, Except.bind]

lemma Decodes.pure {value : α} (h : ∀ a, value = a ↔ good a) :
    Decodes (Reading.within (Pure.pure value)) (fun _ => ⊤) good := by
  intro contents a
  rw [← h]
  have htop : contents ∈ (⊤ : Language UInt8) := trivial
  simp only [htop, and_true, within_eq_ok_iff]
  constructor
  · rintro ⟨rest, hrun⟩
    cases hrun
    rfl
  · rintro rfl
    exact ⟨contents, rfl⟩

lemma Decodes.bind (get : β → α) (h : reading.Takes words good) (hgood : ∀ b, target b → good (get b))
    (hrest : ∀ a, good a → Decodes (go a).within rest fun b => get b = a ∧ target b) :
    Decodes (reading >>= go).within (fun b => words (get b) * rest b) target := by
  intro contents b
  rw [within_eq_ok_iff]
  constructor
  · rintro ⟨after, hrun⟩
    obtain ⟨a, mid, hfirst, hgo⟩ := run_bind_eq_ok_iff.mp hrun
    obtain ⟨ha, taken, htaken, rfl⟩ := (h contents a mid).mp hfirst
    obtain ⟨⟨rfl, hb⟩, hmid⟩ := (hrest a ha mid b).mp (within_eq_ok_iff.mpr ⟨after, hgo⟩)
    exact ⟨hb, Language.append_mem_mul htaken hmid⟩
  · rintro ⟨hb, hcontents⟩
    obtain ⟨taken, htaken, mid, hmid, rfl⟩ := Language.mem_mul.mp hcontents
    obtain ⟨after, hgo⟩ := within_eq_ok_iff.mp ((hrest _ (hgood b hb) mid b).mpr ⟨⟨rfl, hb⟩, hmid⟩)
    exact ⟨after, run_bind_eq_ok_iff.mpr ⟨_, mid, (h ..).mpr ⟨hgood b hb, taken, htaken, rfl⟩, hgo⟩⟩

lemma Decodes.bindCode (get : β → α) {coded : Reading γ} {decode : γ → Except WireError α} {code : α → γ}
    {words : γ → Language UInt8} (hcode : ∀ c a, decode c = .ok a ↔ code a = c) (h : coded.Takes words)
    (hrest : ∀ a, Decodes (go a).within rest fun b => get b = a ∧ target b) :
    Decodes (coded >>= fun c => liftM (decode c) >>= go).within (fun b => words (code (get b)) * rest b) target := by
  refine .bind (fun b => code (get b)) h (fun _ _ => trivial) ?_
  intro c _ contents b
  dsimp only
  rw [← hcode c (get b)]
  cases decode c with
  | error e =>
    constructor
    · intro h
      contradiction
    · rintro ⟨⟨h, -⟩, -⟩
      contradiction
  | ok a =>
    change (go a).within contents = .ok b ↔ _
    rw [hrest a contents b, Except.ok.injEq, @eq_comm _ a]

lemma run_liftM_eq_ok_iff {x : Except WireError α} {input after : Octets} {a : α} :
    StateT.run (liftM x : Reading α) input = .ok (a, after) ↔ x = .ok a ∧ input = after := by
  cases x with
  | error e =>
    constructor
    · intro h
      contradiction
    · rintro ⟨h, -⟩
      contradiction
  | ok value =>
    change Except.ok (value, input) = .ok (a, after) ↔ _
    simp

lemma Decodes.run_read_eq_ok_iff (h : Decodes reading.within words good) {f : α → β} {tag : UInt8}
    (htag : numberOf tag ≠ 31) {after rest : Octets} {b : β} :
    StateT.run (do let e ← Item.next read; return f (← reading.within e.contents)) (tag :: after) = .ok (b, rest) ↔
      ∃ a, f a = b ∧ good a ∧ ∃ taken ∈ elements tag (words a), taken ++ rest = tag :: after := by
  simp only [run_bind_eq_ok_iff, run_liftM_eq_ok_iff, ← exists_next_read_iff htag]
  constructor
  · rintro ⟨⟨_, contents⟩, mid, hread, a, _, ⟨hwithin, rfl⟩, hpure⟩
    cases hpure
    obtain ⟨-, length, -, heq⟩ := next_read_eq_ok_iff.mp hread
    obtain ⟨rfl, -⟩ := List.cons.inj heq
    obtain ⟨hgood, hmem⟩ := (h contents a).mp hwithin
    exact ⟨a, rfl, hgood, contents, hread, hmem⟩
  · rintro ⟨a, rfl, ha, contents, hread, hmem⟩
    exact ⟨_, rest, hread, a, rest, ⟨(h contents a).mpr ⟨ha, hmem⟩, rfl⟩, rfl⟩

end Within

lemma next_length_lt {item : Item α} {input rest : Octets} {value : α} (h : item.next input = .ok (value, rest)) :
    rest.length < input.length := by
  rw [Item.next] at h
  split at h
  · contradiction
  · rename_i found _
    cases h
    exact found.shorter

lemma untilEndOnto_eq_ok_iff {item : Item α} (h : Reading.Takes item.next words good) {done values : List α}
    {input : Octets} : untilEndOnto item done input = .ok values ↔ ∃ more, values = done.reverse ++ more ∧
      (∀ value ∈ more, good value) ∧ input ∈ (more.map words).prod := by
  have hcons : ∀ {input : Octets} {v : α} {more : List α}, input ∈ ((v :: more).map words).prod → good v →
      ∃ rest, item.next input = .ok (v, rest) ∧ rest ∈ (more.map words).prod := by
    intro input v more hinput hv
    rw [List.map_cons, List.prod_cons] at hinput
    obtain ⟨taken, htaken, rest, hrest, rfl⟩ := Language.mem_mul.mp hinput
    exact ⟨rest, (h ..).mpr ⟨hv, taken, htaken, rfl⟩, hrest⟩
  fun_induction untilEndOnto item done input with
  | case1 done =>
    constructor
    · intro heq
      cases heq
      exact ⟨[], by simp, by simp, Language.nil_mem_one⟩
    · rintro ⟨more, rfl, hgood, hinput⟩
      cases more with
      | nil => rw [List.append_nil]
      | cons v more =>
        obtain ⟨rest, hnext, -⟩ := hcons hinput (hgood v List.mem_cons_self)
        exact absurd (next_length_lt hnext) (Nat.not_lt_zero _)
  | case2 done b bs e he =>
    constructor
    · intro heq
      contradiction
    · rintro ⟨more, rfl, hgood, hinput⟩
      cases more with
      | nil => exact absurd hinput (List.cons_ne_nil b bs)
      | cons v more =>
        obtain ⟨rest, hnext, -⟩ := hcons hinput (hgood v List.mem_cons_self)
        rw [Item.next, he] at hnext
        contradiction
  | case3 done b bs found hfound ih =>
    have hnext : item.next (b :: bs) = .ok (found.value, found.rest) := by rw [Item.next, hfound]
    refine ih.trans ⟨?_, ?_⟩
    · rintro ⟨more, rfl, hgood, hrest⟩
      obtain ⟨hv, taken, htaken, heq⟩ := (h ..).mp hnext
      refine ⟨found.value :: more, by simp, List.forall_mem_cons.mpr ⟨hv, hgood⟩, ?_⟩
      have hmem := Language.append_mem_mul htaken hrest
      rw [heq] at hmem
      rwa [List.map_cons, List.prod_cons]
    · rintro ⟨more, rfl, hgood, hinput⟩
      cases more with
      | nil => exact absurd hinput (List.cons_ne_nil b bs)
      | cons v more =>
        obtain ⟨hv, hmore⟩ := List.forall_mem_cons.mp hgood
        obtain ⟨rest, hnext', hrest⟩ := hcons hinput hv
        cases hnext.symm.trans hnext'
        exact ⟨more, by simp, hmore, hrest⟩

lemma Decodes.untilEnd {item : Item α} (h : Reading.Takes item.next words good) :
    Decodes (untilEnd item) (fun values => (values.map words).prod) fun values => ∀ value ∈ values, good value := by
  intro octets values
  rw [Ber.untilEnd, untilEndOnto_eq_ok_iff h]
  simp

section Values

lemma decodes_ok : Decodes (fun bs => .ok bs) fun bs : Octets => {bs} := by
  intro octets bs
  have hmem : octets ∈ ({bs} : Language UInt8) ↔ octets = bs := Iff.rfl
  simp [hmem]

lemma capacity_le_of_le {width : Nat} (h : width ≤ 4) : Octets.capacity width ≤ 0x100000000 := by
  have hwidth : width = 0 ∨ width = 1 ∨ width = 2 ∨ width = 3 ∨ width = 4 := by omega
  rcases hwidth with rfl | rfl | rfl | rfl | rfl <;> decide

lemma mem_integerContents_of_readInteger {octets : Octets} {value : Int32} (h : readInteger octets = .ok value) :
    octets ∈ integerContents value := by
  simp only [readInteger] at h
  split at h
  · contradiction
  split at h
  · contradiction
  rename_i hempty hle
  have hpos : 0 < octets.length := by
    rw [List.length_pos_iff]
    simpa using hempty
  have hlt := Octets.ofBigEndian_lt octets
  have hcapacity := capacity_le_of_le (Nat.le_of_not_lt hle)
  have hcontents := Octets.bigEndian_ofBigEndian octets
  have hresult : ∀ n : Int, -0x80000000 ≤ n → n < 0x80000000 → (Int32.ofInt n).toInt = n :=
    fun n => Int32.toInt_ofInt_of_le
  generalize Octets.ofBigEndian octets = n at *
  refine ⟨octets.length, hpos, Nat.le_of_not_lt hle, ?_⟩
  generalize Octets.capacity octets.length = c at *
  split at h
  · cases h
    rw [hresult n (by omega) (by omega), Int.emod_eq_of_lt (by omega) (by omega), Int.toNat_natCast]
    exact ⟨by omega, by omega, hcontents⟩
  · cases h
    rw [hresult (n - c) (by omega) (by omega), Int.sub_emod_right, Int.emod_eq_of_lt (by omega) (by omega),
      Int.toNat_natCast]
    exact ⟨by omega, by omega, hcontents⟩

lemma readInteger_of_mem_integerContents {octets : Octets} {value : Int32} (h : octets ∈ integerContents value) :
    readInteger octets = .ok value := by
  obtain ⟨width, hpos, hle, hlow, hhigh, rfl⟩ := h
  have hn : ((Octets.ofBigEndian (Octets.bigEndian width (value.toInt % Octets.capacity width).toNat) : Nat) : Int) =
      value.toInt % Octets.capacity width := by
    have hpos : 0 < (Octets.capacity width : Int) := by omega
    have h0 := Int.emod_nonneg value.toInt (Int.ne_of_gt hpos)
    have h1 := Int.emod_lt_of_pos value.toInt hpos
    rw [Octets.ofBigEndian_bigEndian, Nat.mod_eq_of_lt (by omega)]
    omega
  have hempty : (Octets.bigEndian width (value.toInt % Octets.capacity width).toNat).isEmpty = false := by
    rw [List.isEmpty_eq_false_iff, ← List.length_pos_iff, Octets.length_bigEndian]
    exact hpos
  have hvalue : ∀ n : Int, n = value.toInt → Int32.ofInt n = value := by
    rintro _ rfl
    exact Int32.ofInt_toInt value
  simp only [readInteger, Octets.length_bigEndian, hempty]
  rw [if_neg (by simp), if_neg (by omega)]
  generalize Octets.ofBigEndian _ = n at *
  generalize Octets.capacity width = c at *
  by_cases h : 0 ≤ value.toInt
  · rw [Int.emod_eq_of_lt h (by omega)] at hn
    rw [if_pos (by omega), hvalue _ hn]
  · have : value.toInt % (c : Int) = value.toInt + c := by
      rw [← Int.add_emod_right, Int.emod_eq_of_lt (by omega) (by omega)]
    rw [if_neg (by omega), hvalue _ (by omega)]

lemma decodes_readInteger : Decodes readInteger integerContents := by
  intro octets value
  rw [true_and]
  exact ⟨mem_integerContents_of_readInteger, readInteger_of_mem_integerContents⟩

lemma takes_integer : Reading.Takes integer.next integers :=
  decodes_readInteger.takes .integer

lemma takes_enumerated : Reading.Takes enumerated.next enumerateds :=
  decodes_readInteger.takes .enumerated

lemma takes_boolean : Reading.Takes boolean.next booleans := by
  refine Decodes.takes ?_ .boolean
  intro octets value
  rw [true_and]
  constructor
  · intro h
    dsimp only at h
    split at h
    · rename_i b
      cases h
      exact ⟨b, rfl, rfl⟩
    · contradiction
  · rintro ⟨b, rfl, rfl⟩
    rfl

lemma takes_octetString : Reading.Takes octetString.next octetStrings := by
  intro input bs rest
  have h := decodes_ok.takes .octetString input bs rest
  rw [StateT.run, next_andThen_eq_ok_iff] at h
  simp only [Except.ok.injEq, exists_eq_right] at h
  exact h

lemma takes_text : Reading.Takes text.next (texts .any) := by
  have htext : Decodes (fun bs => .ok (Text.Utf8.decodeLossy bs)) Leeway.any.text := by
    intro octets s
    rw [true_and, Except.ok.injEq]
    rfl
  exact htext.takes .octetString

lemma takes_listOf {item : Item α} (type : BerType) (h : Reading.Takes item.next words good) :
    Reading.Takes (listOf type item).next (lists type words) fun values => ∀ value ∈ values, good value :=
  (Decodes.untilEnd h).takes type

end Values

end DomainLocator.Ber

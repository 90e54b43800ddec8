import DomainLocator.Proofs.Ber.Acceptance

namespace DomainLocator.Ber

section Elements

variable {α β : Type} {item : Item α} {input rest word cut : Octets} {tag : UInt8} {contents : Language UInt8}
  {e : WireError}

lemma readLength_eq_error {first : UInt8} {after : Octets} (h : readLength first after = .error e) :
    ∃ cause, e = .invalidBer cause := by
  simp only [readLength] at h
  repeat' split at h
  all_goals
    cases h
  all_goals
    exact ⟨_, rfl⟩

lemma next_read_eq_error (h : read.next input = .error e) : ∃ cause, e = .invalidBer cause := by
  rw [Item.next] at h
  split at h
  · rename_i e' he
    cases h
    rcases input with _ | ⟨first, _ | ⟨second, after⟩⟩
    · cases he
      exact ⟨_, rfl⟩
    · cases he
      exact ⟨_, rfl⟩
    · rw [read] at he
      split at he
      · cases he
        exact ⟨_, rfl⟩
      split at he
      · cases he
        exact readLength_eq_error ‹_›
      split at he
      · cases he
        exact ⟨_, rfl⟩
      · cases he
  · cases h

lemma next_read_append {e : Element} (h : read.next input = .ok (e, rest)) (following : Octets) :
    read.next (input ++ following) = .ok (e, rest ++ following) := by
  obtain ⟨htag, length, hlength, rfl⟩ := next_read_eq_ok_iff.mp h
  refine next_read_eq_ok_iff.mpr ⟨htag, length, hlength, ?_⟩
  rw [List.cons_append, List.append_assoc _ rest]

lemma next_read_of_cut (hword : word ∈ elements tag contents) (hcut : cut <+: word) (hne : cut ≠ word) :
    ∃ cause, read.next cut = .error (.invalidBer cause) := by
  cases hread : read.next cut with
  | error e =>
    obtain ⟨cause, rfl⟩ := next_read_eq_error hread
    exact ⟨cause, rfl⟩
  | ok found =>
    -- Were an element read from the part, the word would go on after it.
    obtain ⟨e, rest⟩ := found
    obtain ⟨more, rfl⟩ := hcut
    have hpart := next_read_append hread more
    obtain ⟨length, bs, hlength, -, heq⟩ := hword
    obtain ⟨htag, _, _, hpart_eq⟩ := next_read_eq_ok_iff.mp hpart
    have hfirst : e.tag = tag := (List.cons.inj (hpart_eq.trans heq.symm)).1
    have hwhole : read.next (cut ++ more) = .ok (⟨tag, bs⟩, []) := by
      refine next_read_eq_ok_iff.mpr ⟨hfirst ▸ htag, length, hlength, ?_⟩
      rw [List.append_nil, heq]
    have hend : rest ++ more = [] := (Prod.mk.inj (Except.ok.inj (hpart.symm.trans hwhole))).2
    rw [(List.append_eq_nil_iff.mp hend).2, List.append_nil] at hne
    exact absurd rfl hne

lemma next_andThen_eq_error_iff {f : α → Except WireError β} : (item.andThen f).next input = .error e ↔
    item.next input = .error e ∨ ∃ a rest, item.next input = .ok (a, rest) ∧ f a = .error e := by
  simp only [Item.next, Item.andThen]
  cases item input with
  | error e' => simp
  | ok found =>
    cases hf : f found.value with
    | error e' => simp [hf]
    | ok value => simp [hf]

end Elements

section Reading

variable {α β : Type} {item : Item α} {reading : Reading α} {go : α → Reading β} {contents written rest : Octets}
  {value : α} {e : WireError}

lemma Item.Reads.run_bind (h : item.Reads written value) :
    (item.next >>= go).run (written ++ rest) = (go value).run rest := by
  rw [StateT.run_bind]
  change (item.next (written ++ rest) >>= _) = _
  rw [h rest]
  rfl

lemma Item.Reads.run_bind_code {γ : Type} {decode : α → Except WireError γ} {go : γ → Reading β} {c : γ}
    (h : item.Reads written value) (hcode : decode value = .ok c) :
    (item.next >>= fun a => liftM (decode a) >>= go).run (written ++ rest) = (go c).run rest := by
  rw [h.run_bind, hcode]
  rfl

lemma run_bind_eq_error (h : reading.run contents = .error e) : (reading >>= go).run contents = .error e := by
  rw [StateT.run_bind, h]
  rfl

lemma within_eq_error (h : reading.run contents = .error e) : reading.within contents = .error e := by
  rw [Reading.within, h]
  rfl

lemma run_read_eq_error {f : α → β} {tag : UInt8} (hread : Item.Reads read written ⟨tag, contents⟩)
    (h : reading.within contents = .error e) :
    StateT.run (do let e ← Item.next read; return f (← reading.within e.contents)) written = .error e := by
  rw [← List.append_nil written, hread.run_bind, h]
  rfl

lemma reads_element {tag : UInt8} (htag : numberOf tag ≠ 31) (hfits : Fits contents) :
    Item.Reads read (element tag contents) ⟨tag, contents⟩ := by
  intro rest
  exact next_read_eq_ok_iff.mpr ⟨htag, _, isLength_lengthOctets hfits, rfl⟩

lemma reads_ofType (type : BerType) (hfits : Fits contents) :
    (ofType type).Reads (element (tagOf type) contents) contents := by
  intro rest
  have htag : numberOf (tagOf type) ≠ 31 := by cases type <;> decide
  exact next_andThen_eq_ok_iff.mpr ⟨_, reads_element htag hfits rest, if_pos rfl⟩

lemma untilEndOnto_append {done : List α} (h : item.Reads written value) :
    untilEndOnto item done (written ++ rest) = untilEndOnto item (value :: done) rest := by
  have hnext := h rest
  have hlt := next_length_lt hnext
  match hinput : written ++ rest, hlt with
  | b :: bs, _ =>
    rw [hinput, Item.next] at hnext
    rw [untilEndOnto]
    split at hnext
    · cases hnext
    · rename_i found hfound
      cases hnext
      simp only [hfound]

lemma untilEndOnto_eq_error {done : List α} (h : item.next contents = .error e) (hne : contents ≠ []) :
    untilEndOnto item done contents = .error e := by
  match contents, hne with
  | b :: bs, _ =>
    rw [Item.next] at h
    rw [untilEndOnto]
    split at h
    · rename_i he
      cases h
      simp only [he]
    · cases h

end Reading

end DomainLocator.Ber

import DomainLocator.Proofs.Dns.NameGrammar

namespace DomainLocator.Dns.Name

open Relation

variable {buf : Buffer} {seen : Std.TreeSet Nat} {past : Option Nat} {done : List String} {pos fin : Nat}
  {n : Name} {e : WireError}

def IsLoop (e : WireError) : Prop :=
  ∃ offset, e = .malformedName offset .pointerLoop

lemma partAt_not_loop (h : partAt buf pos = .error e) : ¬ IsLoop e := by
  rintro ⟨offset, rfl⟩
  rw [partAt] at h
  grind

lemma stuck_of_partAt (h : partAt buf pos = .error e) : Stuck buf.toArray pos := by
  have hn : ∀ part : Part, ¬ part.StandsAt buf.toArray pos := by
    intro part hp
    rw [partAt_of_standsAt hp] at h
    contradiction
  refine ⟨pos, .refl, hn .root, ?_⟩
  intro next hs
  cases hs with
  | label hp => exact hn _ hp
  | pointer hp _ => exact hn _ hp

lemma stuck_of_outside {target : Nat} (h : partAt buf pos = .ok (.pointer target)) (ht : ¬ target < buf.size) :
    Stuck buf.toArray pos := by
  have h := standsAt_of_partAt h
  refine ⟨pos, .refl, ?_, ?_⟩
  · intro hr
    cases h.unique hr
  · intro next hs
    cases hs with
    | label hp => cases h.unique hp
    | pointer hp hlt =>
      cases h.unique hp
      rw [Buffer.size_toArray] at hlt
      exact ht hlt

lemma walk_spells (h : walk buf seen past done pos = .ok (n, fin)) :
    ∃ labels stop, Spells buf.toArray pos labels stop ∧
      n.labels = done.reverse ++ labels.map Text.Utf8.decodeLossy ∧ fin = past.getD stop := by
  fun_induction walk buf seen past done pos with
  | case1 => contradiction
  | case2 seen past done pos hp =>
    cases h
    exact ⟨[], pos + 1, .root (standsAt_of_partAt hp), by simp, rfl⟩
  | case3 seen past done pos octets hp ih =>
    obtain ⟨labels, stop, hs, hn, hf⟩ := ih h
    exact ⟨octets :: labels, stop, .label (standsAt_of_partAt hp) hs, by simp [hn], hf⟩
  | case4 => contradiction
  | case5 seen past done pos target hp _ ht ih =>
    obtain ⟨labels, stop, hs, hn, hf⟩ := ih h
    rw [← Buffer.size_toArray] at ht
    refine ⟨labels, pos + 2, .pointer (standsAt_of_partAt hp) ht hs, hn, ?_⟩
    rw [hf]
    cases past <;> rfl
  | case6 => contradiction

lemma walk_endless (hseen : ∀ p ∈ seen, p < buf.size ∧ ReflTransGen (Step buf.toArray) p pos)
    (h : walk buf seen past done pos = .error e) (he : IsLoop e) : Endless buf.toArray pos := by
  fun_induction walk buf seen past done pos with
  | case1 seen past done pos _ hp =>
    cases h
    exact (partAt_not_loop hp he).elim
  | case2 => contradiction
  | case3 seen past done pos octets hp ih =>
    have hs : Step buf.toArray pos _ := .label (standsAt_of_partAt hp)
    exact .of_step hs (ih (fun p hm => ⟨(hseen p hm).1, .tail (hseen p hm).2 hs⟩) h)
  | case4 seen past done pos target hp hm =>
    -- The target has been met before, so the walk has come back to it.
    obtain ⟨ht, hw⟩ := hseen target hm
    rw [← Buffer.size_toArray] at ht
    have hs : Step buf.toArray pos target := .pointer (standsAt_of_partAt hp) ht
    exact endless_of_cycle (TransGen.head' hs hw)
  | case5 seen past done pos target hp _ ht ih =>
    have hs : Step buf.toArray pos target := .pointer (standsAt_of_partAt hp) (by rwa [Buffer.size_toArray])
    refine .of_step hs (ih ?_ h)
    intro p hm
    rcases Std.TreeSet.mem_insert.mp hm with heq | hm
    · cases Std.LawfulEqCmp.eq_of_compare heq
      exact ⟨ht, .refl⟩
    · exact ⟨(hseen p hm).1, .tail (hseen p hm).2 hs⟩
  | case6 =>
    obtain ⟨offset, rfl⟩ := he
    simp at h

lemma walk_stuck (h : walk buf seen past done pos = .error e) (he : ¬ IsLoop e) : Stuck buf.toArray pos := by
  fun_induction walk buf seen past done pos with
  | case1 _ _ _ _ _ hp => exact stuck_of_partAt hp
  | case2 => contradiction
  | case3 seen past done pos octets hp ih => exact .of_step (.label (standsAt_of_partAt hp)) (ih h)
  | case4 =>
    cases h
    exact (he ⟨_, rfl⟩).elim
  | case5 seen past done pos target hp _ ht ih =>
    rw [← Buffer.size_toArray] at ht
    exact .of_step (.pointer (standsAt_of_partAt hp) ht) (ih h)
  | case6 seen past done pos target hp _ ht => exact stuck_of_outside hp ht

lemma decode_spells (h : decode buf pos = .ok (n, fin)) :
    ∃ labels, Spells buf.toArray pos labels fin ∧ n = ⟨labels.map Text.Utf8.decodeLossy⟩ := by
  obtain ⟨labels, stop, hs, hn, rfl⟩ := walk_spells h
  obtain ⟨ls⟩ := n
  cases hn
  exact ⟨labels, hs, rfl⟩

lemma decode_endless (h : decode buf pos = .error e) (he : IsLoop e) : Endless buf.toArray pos :=
  walk_endless (by simp) h he

lemma decode_stuck (h : decode buf pos = .error e) (he : ¬ IsLoop e) : Stuck buf.toArray pos :=
  walk_stuck h he

lemma decode_of_spells {labels : List Octets} (h : Spells buf.toArray pos labels fin) :
    decode buf pos = .ok (⟨labels.map Text.Utf8.decodeLossy⟩, fin) := by
  cases hd : decode buf pos with
  | ok result =>
    obtain ⟨labels', hs, hn⟩ := decode_spells hd
    obtain ⟨rfl, hf⟩ := h.unique hs
    exact congrArg _ (Prod.ext hn hf.symm)
  | error e =>
    by_cases he : IsLoop e
    · exact (h.not_endless (decode_endless hd he)).elim
    · exact (h.not_stuck (decode_stuck hd he)).elim

lemma decode_of_endless (h : Endless buf.toArray pos) : ∃ e, decode buf pos = .error e ∧ IsLoop e := by
  cases hd : decode buf pos with
  | ok result =>
    obtain ⟨labels, hs, _⟩ := decode_spells hd
    exact (hs.not_endless h).elim
  | error e =>
    by_cases he : IsLoop e
    · exact ⟨e, rfl, he⟩
    · exact ((decode_stuck hd he).not_endless h).elim

lemma decode_of_stuck (h : Stuck buf.toArray pos) : ∃ e, decode buf pos = .error e ∧ ¬ IsLoop e := by
  cases hd : decode buf pos with
  | ok result =>
    obtain ⟨labels, hs, _⟩ := decode_spells hd
    exact (hs.not_stuck h).elim
  | error e =>
    by_cases he : IsLoop e
    · exact (h.not_endless (decode_endless hd he)).elim
    · exact ⟨e, rfl, he⟩

theorem decode_follows_grammar (buf : Buffer) (pos : Nat) :
    (∀ n past, decode buf pos = .ok (n, past) ↔
      ∃ labels, Spells buf.toArray pos labels past ∧ n = ⟨labels.map Text.Utf8.decodeLossy⟩) ∧
    ((∃ offset, decode buf pos = .error (.malformedName offset .pointerLoop)) ↔ Endless buf.toArray pos) ∧
    ((∃ e, decode buf pos = .error e ∧ ¬ IsLoop e) ↔ Stuck buf.toArray pos) ∧
    ∀ n past, decode buf pos = .ok (n, past) → n.labels.length < buf.size := by
  refine ⟨fun n past => ⟨decode_spells, ?_⟩, ⟨?_, ?_⟩, ⟨?_, decode_of_stuck⟩, ?_⟩
  · rintro ⟨labels, h, rfl⟩
    exact decode_of_spells h
  · rintro ⟨offset, h⟩
    exact decode_endless h ⟨offset, rfl⟩
  · intro h
    obtain ⟨e, hd, offset, rfl⟩ := decode_of_endless h
    exact ⟨offset, hd⟩
  · rintro ⟨e, h, he⟩
    exact decode_stuck h he
  · intro n past h
    obtain ⟨labels, hs, rfl⟩ := decode_spells h
    rw [List.length_map, ← buf.size_toArray]
    exact hs.length_lt

end DomainLocator.Dns.Name

import DomainLocator.Proofs.Dns.NameText
import Mathlib

namespace DomainLocator

namespace Text

def LowerCase.IsPlain (c : Char) : Prop :=
  ofChar c = [c.toLower]

instance : DecidablePred LowerCase.IsPlain :=
  fun _ => inferInstanceAs (Decidable (_ = _))

namespace LowerCase

lemma isPlain_of_ascii {c : Char} (h : c.toNat < 0x80) : IsPlain c :=
  if_pos h

lemma isPlain_of_all_ascii {cs : List Char} (h : cs.all (·.toNat < 0x80)) : ∀ c ∈ cs, IsPlain c :=
  fun c hc => isPlain_of_ascii (by simpa using List.all_eq_true.mp h c hc)

lemma atPlace_of_isPlain {c : Char} (h : IsPlain c) (cs : List Char) (i : Nat) : atPlace cs c i = [c.toLower] := by
  by_cases hc : c = '\u03a3'
  · -- The capital sigma has a small form outside ASCII, so it is not plain.
    subst hc
    exact absurd h (by decide)
  · rw [atPlace, if_neg hc, h]

lemma flatMap_atPlace {cs : List Char} (h : ∀ c ∈ cs, IsPlain c) (text : List Char) :
    (cs.zipIdx.flatMap fun p => atPlace text p.1 p.2) = cs.map Char.toLower := by
  have hplaces : ∀ p ∈ cs.zipIdx, atPlace text p.1 p.2 = [p.1.toLower] := fun p hp =>
    atPlace_of_isPlain (h p.1 (List.fst_mem_of_mem_zipIdx hp)) text p.2
  calc
    _ = cs.zipIdx.flatMap fun p => [p.1.toLower] := List.flatMap_congr hplaces
    _ = (cs.zipIdx.map Prod.fst).map Char.toLower := by
      rw [← List.map_eq_flatMap, List.map_map]
      rfl
    _ = cs.map Char.toLower := by rw [List.zipIdx_map_fst]

lemma ofList_of_isPlain {cs : List Char} (h : ∀ c ∈ cs, IsPlain c) : ofList cs = cs.map Char.toLower :=
  flatMap_atPlace h cs

lemma ofList_append {cs : List Char} (h : ∀ c ∈ cs, IsPlain c) (rest : List Char) :
    ∃ tail, ofList (cs ++ rest) = cs.map Char.toLower ++ tail := by
  rw [ofList, List.zipIdx_append, List.flatMap_append, flatMap_atPlace h]
  exact ⟨_, rfl⟩

end LowerCase

lemma eqIgnoreCase_iff {a b : String} :
    eqIgnoreCase a b ↔ a.toList.map Char.toLower = b.toList.map Char.toLower := by
  simp [eqIgnoreCase]

lemma eqIgnoreCase_of_lowerCase {a b : String} (ha : ∀ c ∈ a.toList, LowerCase.IsPlain c)
    (hb : ∀ c ∈ b.toList, LowerCase.IsPlain c) (h : lowerCase a = lowerCase b) : eqIgnoreCase a b := by
  rw [lowerCase, lowerCase, String.ofList_inj] at h
  rw [LowerCase.ofList_of_isPlain ha, LowerCase.ofList_of_isPlain hb] at h
  exact eqIgnoreCase_iff.mpr h

namespace LowerCase

lemma toLower_of_letters {α : Type} {f : Char → α}
    (h : ∀ n < 26, f (Char.ofNat (0x41 + n)).toLower = f (Char.ofNat (0x41 + n))) (c : Char) : f c.toLower = f c := by
  by_cases hc : c.isUpper
  · simp only [Char.isUpper, ge_iff_le, UInt32.le_iff_toNat_le, decide_eq_true_eq] at hc
    have hn : 0x41 ≤ c.toNat ∧ c.toNat ≤ 0x5a := hc
    obtain ⟨n, hn'⟩ := Nat.exists_eq_add_of_le hn.1
    rw [← Char.ofNat_toNat c, hn']
    exact h n (by omega)
  · rw [Char.toLower_eq_of_not_isUpper hc]

lemma isCased_toLower (c : Char) : isCased c.toLower = isCased c :=
  toLower_of_letters (by decide +kernel) c

lemma isIgnorable_toLower (c : Char) : isIgnorable c.toLower = isIgnorable c :=
  toLower_of_letters (by decide +kernel) c

lemma ofChar_toLower (c : Char) : ofChar c.toLower = ofChar c :=
  toLower_of_letters (by decide +kernel) c

lemma toLower_eq_sigma (c : Char) : c.toLower = '\u03a3' ↔ c = '\u03a3' :=
  iff_of_eq (toLower_of_letters (f := (· = '\u03a3')) (by decide) c)

lemma beginsCased_map_toLower (cs : List Char) : beginsCased (cs.map Char.toLower) = beginsCased cs := by
  rw [beginsCased, List.find?_map, Option.any_map]
  simp only [Function.comp_def, isCased_toLower, isIgnorable_toLower]
  rfl

lemma atPlace_map_toLower (cs : List Char) (c : Char) (i : Nat) :
    atPlace (cs.map Char.toLower) c.toLower i = atPlace cs c i := by
  simp only [atPlace, toLower_eq_sigma, ofChar_toLower, endsWord, ← List.map_take, ← List.map_drop, ← List.map_reverse,
    beginsCased_map_toLower]
  rfl

lemma ofList_map_toLower (cs : List Char) : ofList (cs.map Char.toLower) = ofList cs := by
  rw [ofList, List.zipIdx_map, List.flatMap_map]
  exact List.flatMap_congr fun p _ => atPlace_map_toLower cs p.1 p.2

end LowerCase

lemma lowerCase_of_eqIgnoreCase {a b : String} (h : eqIgnoreCase a b) : lowerCase a = lowerCase b := by
  rw [lowerCase, lowerCase, ← LowerCase.ofList_map_toLower a.toList, eqIgnoreCase_iff.mp h,
    LowerCase.ofList_map_toLower]

lemma Utf8.length_encode_of_eqIgnoreCase {a b : String} (h : eqIgnoreCase a b) :
    (encode a).length = (encode b).length := by
  have hchar : ∀ c : Char, (String.utf8EncodeChar c.toLower).length = (String.utf8EncodeChar c).length :=
    LowerCase.toLower_of_letters (f := fun c => (String.utf8EncodeChar c).length) (by decide)
  have hlower : ∀ s : String,
      (encode s).length = ((s.toList.map Char.toLower).flatMap String.utf8EncodeChar).length := by
    intro s
    simp [encode, List.length_flatMap, List.flatMap_map, hchar]
  rw [hlower, hlower, eqIgnoreCase_iff.mp h]

lemma toLower_eq_stop (c : Char) : c.toLower = '.' ↔ c = '.' :=
  iff_of_eq (LowerCase.toLower_of_letters (f := (· = '.')) (by decide) c)

namespace Separated

lemma pieces_map {sep : Char} {f : Char → Char} (hf : ∀ c, f c = sep ↔ c = sep) (cs : List Char) :
    pieces sep (cs.map f) = (pieces sep cs).map (List.map f) := by
  induction cs with
  | nil => rfl
  | cons c cs ih =>
    rw [List.map_cons, pieces_cons, pieces_cons, ih]
    cases h : pieces sep cs with
    | nil => exact absurd h (pieces_ne_nil sep cs)
    | cons piece rest =>
      by_cases hc : c = sep
      · simp [consPiece, hc, (hf sep).mpr]
      · simp [consPiece, hc, hf]

lemma map_intercalate (sep : Char) (f : Char → Char) (pieces : List (List Char)) :
    ([sep].intercalate pieces).map f = [f sep].intercalate (pieces.map (List.map f)) := by
  induction pieces with
  | nil => rfl
  | cons piece rest ih =>
    cases rest with
    | nil => simp
    | cons next rest => simpa using ih

end Separated

end Text

namespace Dns.Name

open Text.Separated (pieces split)

def Dotless (n : Name) : Prop :=
  n.labels ≠ [] ∧ ∀ label ∈ n.labels, '.' ∉ label.toList

instance : DecidablePred Dotless :=
  fun _ => inferInstanceAs (Decidable (_ ∧ _))

def folded (n : Name) : List (List Char) :=
  n.labels.map (·.toList.map Char.toLower)

lemma eqIgnoreCase_iff {a b : Name} : a.eqIgnoreCase b ↔ a.folded = b.folded := by
  obtain ⟨as⟩ := a
  obtain ⟨bs⟩ := b
  rw [folded, folded]
  induction as generalizing bs with
  | nil => cases bs <;> simp [eqIgnoreCase]
  | cons label as ih =>
    cases bs with
    | nil => simp [eqIgnoreCase]
    | cons label' bs =>
      rw [List.map_cons, List.map_cons, List.cons.injEq, ← ih bs]
      simp only [eqIgnoreCase, Text.eqIgnoreCase, List.length_cons, List.zip_cons_cons, List.all_cons,
        Bool.and_eq_true, beq_iff_eq, Nat.add_right_cancel_iff]
      exact and_left_comm

lemma dotless_iff_folded {n : Name} : n.Dotless ↔ n.folded ≠ [] ∧ ∀ label ∈ n.folded, '.' ∉ label := by
  have hlower : ∀ cs : List Char, '.' ∈ cs.map Char.toLower ↔ '.' ∈ cs := by simp [Text.toLower_eq_stop]
  simp [Dotless, folded, hlower]

lemma folded_ofDotted (s : String) : (ofDotted s).folded = pieces '.' (s.toList.map Char.toLower) := by
  rw [Text.Separated.pieces_map Text.toLower_eq_stop, folded, ofDotted, split, List.map_map]
  simp [Function.comp_def]

lemma map_toLower_dotted (n : Name) : n.dotted.toList.map Char.toLower = ['.'].intercalate n.folded := by
  rw [dotted, Text.Separated.toList_join, Text.Separated.map_intercalate, List.map_map]
  rfl

lemma eqIgnoreCase_dotted {a b : Name} (h : a.eqIgnoreCase b) : Text.eqIgnoreCase a.dotted b.dotted := by
  rw [Text.eqIgnoreCase_iff, map_toLower_dotted, map_toLower_dotted, eqIgnoreCase_iff.mp h]

lemma key_of_eqIgnoreCase {a b : Name} (h : a.eqIgnoreCase b) : a.key = b.key :=
  Text.lowerCase_of_eqIgnoreCase (eqIgnoreCase_dotted h)

lemma dotless_ofDotted (s : String) : (ofDotted s).Dotless :=
  ⟨Text.Separated.split_ne_nil '.' s, fun _ => Text.Separated.split_free⟩

lemma Dotless.ofDotted_dotted {n : Name} (h : n.Dotless) : ofDotted n.dotted = n := by
  rw [ofDotted, dotted, Text.Separated.split_join h.1 h.2]

lemma Dotless.eqIgnoreCase_iff {a b : Name} (ha : a.Dotless) :
    a.eqIgnoreCase b ↔ b.Dotless ∧ Text.eqIgnoreCase a.dotted b.dotted := by
  constructor
  · intro h
    have hb : b.Dotless := by rwa [dotless_iff_folded, ← Name.eqIgnoreCase_iff.mp h, ← dotless_iff_folded]
    exact ⟨hb, eqIgnoreCase_dotted h⟩
  · rintro ⟨hb, h⟩
    rw [Name.eqIgnoreCase_iff, ← ha.ofDotted_dotted, ← hb.ofDotted_dotted, folded_ofDotted, folded_ofDotted,
      Text.eqIgnoreCase_iff.mp h]

end Dns.Name

end DomainLocator

import DomainLocator.Proofs.Dns.NameCompression

namespace DomainLocator

namespace Text.Separated

lemma toList_join (sep : Char) (texts : List String) :
    (join sep texts).toList = [sep].intercalate (texts.map String.toList) := by
  simp [join, String.toList_intercalate]

lemma join_split (sep : Char) (s : String) : join sep (split sep s) = s := by
  apply String.toList_inj.mp
  have hp : (split sep s).map String.toList = pieces sep s.toList := by
    simp [split, Function.comp_def]
  rw [toList_join, hp]
  exact intercalate_pieces sep s.toList

lemma pieces_eq_splitOn (sep : Char) (cs : List Char) : pieces sep cs = cs.splitOn sep := by
  rw [List.splitOn]
  induction cs with
  | nil => rfl
  | cons c cs ih =>
    have hne : pieces sep cs ≠ [] := pieces_ne_nil sep cs
    rw [pieces_cons, List.splitOnP_cons_eq_if_modifyHead, ← ih]
    obtain ⟨piece, rest, hp⟩ := List.exists_cons_of_ne_nil hne
    simp only [hp, consPiece, beq_iff_eq]
    rfl

lemma split_join {sep : Char} {texts : List String} (hne : texts ≠ []) (hfree : ∀ text ∈ texts, sep ∉ text.toList) :
    split sep (join sep texts) = texts := by
  have hpieces : pieces sep (join sep texts).toList = texts.map String.toList := by
    rw [toList_join, pieces_eq_splitOn]
    apply List.splitOn_intercalate
    · simpa using hfree
    · simpa using hne
  rw [split, hpieces, List.map_map]
  simp [Function.comp_def]

lemma split_ne_nil (sep : Char) (s : String) : split sep s ≠ [] := by
  intro h
  exact pieces_ne_nil sep s.toList (List.map_eq_nil_iff.mp h)

lemma split_free {sep : Char} {s piece : String} (h : piece ∈ split sep s) : sep ∉ piece.toList := by
  obtain ⟨cs, hc, rfl⟩ := List.mem_map.mp h
  rw [String.toList_ofList]
  exact pieces_free sep s.toList cs hc

lemma split_append_sep (sep : Char) (s t : String) :
    split sep (s ++ sep.toString ++ t) = split sep s ++ split sep t := by
  have hjoin : join sep (split sep s ++ split sep t) = s ++ sep.toString ++ t := by
    rw [join, String.intercalate_append_of_ne_nil (split_ne_nil sep s) (split_ne_nil sep t), ← join, ← join,
      join_split, join_split]
  rw [← hjoin, split_join (by simp [split_ne_nil])]
  exact fun text ht => (List.mem_append.mp ht).elim split_free split_free

lemma join_concat {sep : Char} {texts : List String} (last : String) (h : texts ≠ []) :
    join sep (texts ++ [last]) = join sep texts ++ sep.toString ++ last := by
  rw [join, String.intercalate_append_of_ne_nil h (by simp), String.intercalate_singleton]
  rfl

end Text.Separated

def Text.dropStop (s : String) : String :=
  if s.toList.getLast? = some '.' then String.ofList s.toList.dropLast else s

lemma Text.dropStop_append_stop (s : String) : dropStop (s ++ '.'.toString) = s := by
  have hs : (s ++ '.'.toString).toList = s.toList ++ ['.'] := String.toList_append
  rw [dropStop, hs, List.getLast?_concat, if_pos rfl, List.dropLast_concat, String.ofList_toList]

namespace Dns.Name

open Text (dropStop)
open Text.Separated (join)

lemma dotted_ofDotted (s : String) : (ofDotted s).dotted = s :=
  Text.Separated.join_split '.' s

lemma dropStop_join_concat {init : List String} {last : String} (hl : last ≠ "") (hf : '.' ∉ last.toList) :
    dropStop (join '.' (init ++ [last])) = join '.' (init ++ [last]) := by
  have hne : last.toList ≠ [] := fun h => hl (String.toList_eq_nil_iff.mp h)
  have hlast : (join '.' (init ++ [last])).toList.getLast? = last.toList.getLast? := by
    by_cases hi : init = []
    · subst hi
      rfl
    · rw [Text.Separated.join_concat last hi, String.toList_append, List.getLast?_append_of_ne_nil _ hne]
  apply if_neg
  rw [hlast]
  exact fun h => hf (List.mem_of_getLast? h)

lemma dotted_canonical_ofDotted (s : String) : (ofDotted s).canonical.dotted = dropStop s := by
  rw [canonical, dotted, ofDotted]
  have hjoin := Text.Separated.join_split '.' s
  have hfree : ∀ piece ∈ Text.Separated.split '.' s, '.' ∉ piece.toList := fun _ => Text.Separated.split_free
  obtain ⟨init, last, hs⟩ := (List.eq_nil_or_concat' _).resolve_left (Text.Separated.split_ne_nil '.' s)
  rw [hs] at hjoin hfree ⊢
  rw [dropRoot, List.getLast?_concat, List.dropLast_concat, ← hjoin]
  by_cases hl : last = ""
  · subst hl
    rw [if_pos rfl]
    by_cases hi : init = []
    · subst hi
      rfl
    · rw [Text.Separated.join_concat "" hi, String.append_empty, Text.dropStop_append_stop]
  · rw [if_neg (by simpa using hl)]
    exact (dropStop_join_concat hl (hfree last (by simp))).symm

lemma dotted_canonical_single (label : String) : (single label).canonical.dotted = label := by
  by_cases hl : label = ""
  · subst hl
    rfl
  · rw [canonical, single, dropRoot, if_neg (by simpa using hl)]
    rfl

end Dns.Name

end DomainLocator

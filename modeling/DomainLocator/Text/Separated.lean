namespace DomainLocator.Text.Separated

def consPiece (sep c : Char) : List (List Char) → List (List Char)
  | [] => [[c]]
  | piece :: pieces => if c = sep then [] :: piece :: pieces else (c :: piece) :: pieces

def pieces (sep : Char) (cs : List Char) : List (List Char) :=
  cs.foldr (consPiece sep) [[]]

def split (sep : Char) (s : String) : List String :=
  (pieces sep s.toList).map String.ofList

def join (sep : Char) (texts : List String) : String :=
  String.intercalate sep.toString texts

theorem pieces_cons (sep c : Char) (cs : List Char) : pieces sep (c :: cs) = consPiece sep c (pieces sep cs) :=
  rfl

theorem pieces_ne_nil (sep : Char) (cs : List Char) : pieces sep cs ≠ [] := by
  induction cs with
  | nil => simp [pieces]
  | cons c cs ih =>
    rw [pieces_cons]
    cases h : pieces sep cs with
    | nil => exact absurd h ih
    | cons piece rest => simp only [consPiece]; split <;> simp

theorem intercalate_pieces (sep : Char) (cs : List Char) :
    ([sep].intercalate (pieces sep cs)) = cs := by
  induction cs with
  | nil => rfl
  | cons c cs ih =>
    rw [pieces_cons]
    cases h : pieces sep cs with
    | nil => exact absurd h (pieces_ne_nil sep cs)
    | cons piece rest =>
      rw [h] at ih
      simp only [consPiece]
      split
      · rename_i hc
        rw [hc, ← ih]
        simp
      · rw [← ih]
        cases rest <;> simp

theorem pieces_free (sep : Char) (cs : List Char) : ∀ piece ∈ pieces sep cs, sep ∉ piece := by
  induction cs with
  | nil => simp [pieces]
  | cons c cs ih =>
    rw [pieces_cons]
    cases h : pieces sep cs with
    | nil => exact absurd h (pieces_ne_nil sep cs)
    | cons piece rest =>
      rw [h] at ih
      simp only [consPiece]
      split
      · simpa using ih
      · rename_i hc
        simpa [Ne.symm hc] using ih

end DomainLocator.Text.Separated

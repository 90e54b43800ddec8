namespace DomainLocator.Text

abbrev CodeRange := Nat × Nat

end DomainLocator.Text

def Char.inRanges (c : Char) (ranges : List DomainLocator.Text.CodeRange) : Bool :=
  ranges.any fun (first, last) => first ≤ c.toNat && c.toNat ≤ last

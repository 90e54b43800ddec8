namespace DomainLocator.Text

def eqIgnoreCase (a b : String) : Bool :=
  a.toList.map Char.toLower == b.toList.map Char.toLower

end DomainLocator.Text

import ImageBuild.DomainName.MappingTable
import ImageBuild.Text.Front

namespace ImageBuild.DomainName

/-!
# Mapping — the forms of characters by which domain names are compared

Capitals become small letters, characters that are other forms of letters and digits become those,
and characters that cannot be seen vanish.  Some characters cannot stand in a domain name at all.
-/

/-- What a character becomes, if it can stand in a domain name. -/
def image? (c : Char) : Option (List Char) :=
  if c.toNat < 0x80 then some [Text.asciiLower c]
  else if disallowed.has c then none
  else if ignored.has c then some []
  else some ((replaced.image? c).getD [c])

/-- What a text becomes, if all its characters can stand in a domain name. -/
def mapped? (s : List Char) : Option (List Char) := (s.mapM image?).map List.flatten

end ImageBuild.DomainName

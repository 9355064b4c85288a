import MarkupTree.Text.UppercaseTable

namespace MarkupTree.Text

/-- The full uppercase form of one character, which can have up to three. -/
def upperChar (c : Char) : List Char :=
  if c.toNat < 128 then [c.toUpper]
  else match uppercaseExpansions.lookup c.toNat with
    | some codes => codes.map Char.ofNat
    | none => [mapCase uppercaseRanges c]

end MarkupTree.Text

import MarkupTree.Value.Text

namespace MarkupTree.Source

/-- An attribute of a parsed element. A parser may leave out any of its fields. -/
structure Attribute where
  name : Option Value
  qualifier : Option Value
  value : Option Value
  deriving Inhabited

def Attribute.literal (a : Attribute) : String :=
  let name := (Value.ofOption a.name).text
  let qualifier := Value.ofOption a.qualifier
  let qualified := if qualifier.truthy then qualifier.text ++ ":" ++ name else name
  s!"Attribute({qualified}={(Value.ofOption a.value).literal})"

end MarkupTree.Source

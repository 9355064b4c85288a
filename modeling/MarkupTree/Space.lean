namespace MarkupTree

inductive Space where
  | html
  | svg
  deriving DecidableEq, Repr, Inhabited

namespace Space

def name : Space → String
  | html => "html"
  | svg => "svg"

def ofName? : String → Option Space
  | "html" => some html
  | "svg" => some svg
  | _ => none

theorem ofName?_name (space : Space) : ofName? space.name = some space := by
  cases space <;> rfl

end Space

def svgNamespace : String := "http://www.w3.org/2000/svg"

/-- The namespace of an element that states none. -/
def htmlNamespace : String := "http://www.w3.org/1999/xhtml"

end MarkupTree

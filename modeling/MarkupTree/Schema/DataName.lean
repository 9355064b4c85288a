import MarkupTree.Text.CharClass
import MarkupTree.Text.Uppercase

namespace MarkupTree.Schema

/-- A dash and a small ASCII letter become the capital. -/
def camelCase : List Char → List Char
  | '-' :: c :: rest =>
    if c.isLower then c.toUpper :: camelCase rest else '-' :: camelCase (c :: rest)
  | c :: rest => c :: camelCase rest
  | [] => []

/-- An ASCII capital becomes a dash and the small letter. -/
def dashCase : List Char → List Char
  | c :: rest => if c.isUpper then '-' :: c.toLower :: dashCase rest else c :: dashCase rest
  | [] => []

def capitalize : List Char → List Char
  | c :: rest => Text.upperChar c ++ rest
  | [] => []

def isDataChar (c : Char) : Bool := c == '-' || c == '.' || c == ':' || Text.isWordChar c

/-- One line feed at the end is passed over. -/
def dropFinalNewline (cs : List Char) : List Char :=
  if cs.getLast? = some '\n' then cs.dropLast else cs

/-- What follows `data`, in any case, if all of it may stand in a data name. -/
def dataSuffix? : List Char → Option (List Char)
  | d :: a :: t :: b :: suffix =>
    let body := dropFinalNewline suffix
    if [d, a, t, b].map Char.toLower == ['d', 'a', 't', 'a'] && !body.isEmpty &&
        body.all isDataChar then some suffix
    else none
  | _ => none

def dataProperty (rest : List Char) : List Char :=
  ['d', 'a', 't', 'a'] ++ capitalize (camelCase rest)

def dataAttribute (rest : List Char) : List Char :=
  match dashCase rest with
  | '-' :: dashed => ['d', 'a', 't', 'a', '-'] ++ dashed
  | dashed => ['d', 'a', 't', 'a', '-'] ++ dashed

end MarkupTree.Schema

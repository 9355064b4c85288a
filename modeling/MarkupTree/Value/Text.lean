import MarkupTree.Decimal.Notation
import MarkupTree.Text.Quoted
import MarkupTree.Value.Basic

namespace MarkupTree.Value

mutual

def literal : Value → String
  | null => "None"
  | bool b => if b then "True" else "False"
  | int n => toString n
  | float x => x.text
  | string s => Text.quoted s
  | list items => "[" ++ String.intercalate ", " (literals items) ++ "]"
  | record entries => "\x7b" ++ String.intercalate ", " (entryLiterals entries) ++ "\x7d"

def literals : List Value → List String
  | [] => []
  | v :: rest => literal v :: literals rest

def entryLiterals : List (String × Value) → List String
  | [] => []
  | (k, v) :: rest => (Text.quoted k ++ ": " ++ literal v) :: entryLiterals rest

end

/-- A text stands for itself, any other value is written as its literal. -/
def text : Value → String
  | string s => s
  | v => literal v

/-- The first thirty characters or items; other values have no parts. -/
def excerpt? : Value → Option Value
  | string s => some (string (String.ofList (s.toList.take 30)))
  | list items => some (list (items.take 30))
  | _ => none

end MarkupTree.Value

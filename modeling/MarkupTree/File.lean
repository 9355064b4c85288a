import MarkupTree.Value.Text

namespace MarkupTree

structure Diagnostic where
  reason : String
  line : Value
  column : Value
  rule : Value
  fatal : Bool
  deriving BEq, Inhabited

namespace Diagnostic

def place? (d : Diagnostic) : Option (String × String) :=
  match d.line, d.column with
  | .null, _ => none
  | _, .null => none
  | line, column => some (line.text, column.text)

def literal (d : Diagnostic) : String :=
  match d.place? with
  | some (line, column) =>
    s!"Message({Text.quoted d.reason}, line={line}, column={column})"
  | none => s!"Message({Text.quoted d.reason})"

/-- The place, the reason and the rule as one line. -/
def text (d : Diagnostic) : String :=
  let body := if d.rule.truthy then s!"{d.reason} ({d.rule.text})" else d.reason
  match d.place? with
  | some (line, column) => s!"({line},{column}): {body}"
  | none => body

end Diagnostic

/-- The text that a tree was parsed from, with the remarks made about it. -/
structure File where
  text : String
  path : Option String
  messages : List Diagnostic
  deriving Inhabited

namespace File

def ofText (text path : Option String) : File := ⟨text.getD "", path, []⟩

def addMessage (file : File) (d : Diagnostic) : File :=
  { file with messages := file.messages ++ [d] }

def literal (file : File) : String :=
  let name := match file.path with
    | none => "<memory>"
    | some path => if path = "" then "<memory>" else path
  s!"SourceFile({name}, length={file.text.length}, messages={file.messages.length})"

end File

end MarkupTree

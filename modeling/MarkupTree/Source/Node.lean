import MarkupTree.Source.Attribute
import MarkupTree.Source.Location

namespace MarkupTree.Source

/-- How a parsed node shows itself in messages. One that another parser made has its own
summary. -/
inductive Form where
  | plain
  | text
  | comment
  | element
  | foreign (summary : String)
  | absent
  deriving DecidableEq, Repr, Inhabited

/-- The fields of a parsed node itself. Those that a rule needs can be missing, which is not the
same as null. -/
structure Payload where
  kind : Value
  location : Option Location
  data : Option Value
  tagName : Option Value
  mode : Value
  space : Value
  attributes : List Attribute
  deriving Inhabited

inductive Node where
  | mk (form : Form) (payload : Payload) (children : List Node) (content : Option Node)
  deriving Inhabited

namespace Node

def form : Node → Form
  | mk f .. => f

def payload : Node → Payload
  | mk _ p .. => p

def children : Node → List Node
  | mk _ _ cs _ => cs

def content? : Node → Option Node
  | mk _ _ _ c => c

def kind (node : Node) : Value := node.payload.kind

def location (node : Node) : Option Location := node.payload.location

/-- One line about a node. A text or comment has none if its data has no characters to show. -/
def summary? (node : Node) : Option String :=
  let excerpt := (Value.ofOption node.payload.data).excerpt?.map Value.literal
  let count := node.children.length
  match node.form with
  | .plain => some s!"ParseNode({node.kind.text}, children={count})"
  | .text => excerpt.map fun s => s!"Text({s})"
  | .comment => excerpt.map fun s => s!"Comment({s})"
  | .element =>
    some s!"Element(<{(Value.ofOption node.payload.tagName).text}>, children={count})"
  | .foreign summary => some summary
  | .absent => some "None"

end Node

end MarkupTree.Source

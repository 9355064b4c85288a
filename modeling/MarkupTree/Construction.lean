import MarkupTree.Failure
import MarkupTree.Node.Basic
import MarkupTree.Schema.Standard

namespace MarkupTree

inductive Child where
  | node (node : Node)
  | value (value : Value)

def Child.toNode : Child → Except Failure Node
  | node n => .ok n
  | value (.string s) => .ok (.literal none .text (.string s))
  | value v => .error (.notChild v)

namespace Space

/-- The spelling of an element name: lower case, but for the SVG names with capitals. -/
def elementName (space : Space) (name : String) : String :=
  let lowered := Text.lowercase name
  match space with
  | html => lowered
  | svg => (Entries.get? lowered Schema.svgElementCasing).getD lowered

def attributeName (space : Space) (name : String) : String :=
  let lowered := Text.lowercase name
  match space with
  | html => lowered
  | svg => (Entries.get? lowered Schema.svgAttributeCasing).getD lowered

end Space

namespace Node

def tagName (space : Space) (name : Value) : Except Failure Value :=
  if name.truthy then
    match name with
    | .string s => .ok (.string (space.elementName s))
    | v => .error (.notText v)
  else .ok name

def attributeText : Value → Value
  | .null => .string ""
  | v => .string v.text

/-- Attributes under their spelling in the space. Of two that come to be spelled alike the later
value counts. -/
def spellAttributes (space : Space) (done : Entries String Value) :
    List (Value × Value) → Except Failure (Entries String Value)
  | [] => .ok done
  | (.string name, value) :: rest =>
    spellAttributes space (Entries.put (space.attributeName name) (attributeText value) done) rest
  | (name, _) :: _ => .error (.notText name)

def childNodes : List Child → Except Failure (List Node)
  | [] => .ok []
  | child :: rest => do
    let node ← child.toNode
    let nodes ← childNodes rest
    return node :: nodes

/-- The children of a template belong to a tree of their own. -/
def ofTag (tag : Tag) (children : List Node) : Node :=
  match tag.name with
  | .string "template" => .element none tag [] (some (.root none false children))
  | _ => .element none tag children none

/-- A new element. The tag is spelled first, then attributes and children are taken, and an empty
tag is refused last. -/
def build (space : Space) (name : Value) (attributes : List (Value × Value))
    (children : List Child) : Except Failure Node := do
  let name ← tagName space name
  let attributes ← spellAttributes space [] attributes
  let nodes ← childNodes children
  if name.truthy then return ofTag ⟨name, attributes, none⟩ nodes else throw .emptyTag

end Node

end MarkupTree

import MarkupTree.Position

namespace MarkupTree

structure Tag where
  name : Value
  attributes : Entries String Value
  positions : Option TagPositions
  deriving Inhabited

inductive LiteralKind where
  | text
  | comment
  | cdata
  deriving DecidableEq, Repr, Inhabited

namespace LiteralKind

def name : LiteralKind → String
  | text => "text"
  | comment => "comment"
  | cdata => "cdata"

def title : LiteralKind → String
  | text => "Text"
  | comment => "Comment"
  | cdata => "CData"

end LiteralKind

/-- A node of a document tree. The content of an element is the separate tree of a template. -/
inductive Node where
  | root (position : Option Position) (quirksMode : Bool) (children : List Node)
  | element (position : Option Position) (tag : Tag) (children : List Node)
      (content : Option Node)
  | literal (position : Option Position) (kind : LiteralKind) (value : Value)
  | doctype (position : Option Position)
  deriving Inhabited

namespace Node

def typeName : Node → String
  | root .. => "root"
  | element .. => "element"
  | literal _ kind _ => kind.name
  | doctype _ => "doctype"

def position : Node → Option Position
  | root p .. => p
  | element p .. => p
  | literal p .. => p
  | doctype p => p

def withPosition (p : Option Position) : Node → Node
  | root _ quirksMode children => root p quirksMode children
  | element _ tag children content => element p tag children content
  | literal _ kind value => literal p kind value
  | doctype _ => doctype p

def children? : Node → Option (List Node)
  | root _ _ children => some children
  | element _ _ children _ => some children
  | _ => none

def children (node : Node) : List Node := node.children?.getD []

def content? : Node → Option Node
  | element _ _ _ content => content
  | _ => none

def tag? : Node → Option Tag
  | element _ tag _ _ => some tag
  | _ => none

/-- The nodes right below a node, its content last. -/
def parts (node : Node) : List Node := node.children ++ node.content?.toList

mutual

def count : Node → Nat
  | root _ _ children => 1 + countAll children
  | element _ _ children none => 1 + countAll children
  | element _ _ children (some content) => 1 + countAll children + count content
  | literal .. => 1
  | doctype _ => 1

def countAll : List Node → Nat
  | [] => 0
  | node :: rest => count node + countAll rest

end

theorem countAll_append (xs ys : List Node) :
    countAll (xs ++ ys) = countAll xs + countAll ys := by
  induction xs with
  | nil => simp [countAll]
  | cons x xs ih => simp [countAll, ih]; omega

theorem count_eq (node : Node) : node.count = 1 + countAll node.parts := by
  cases node with
  | element _ _ _ content =>
    cases content with
    | none => simp [count, parts, children, children?, content?]
    | some content =>
      simp [count, parts, children, children?, content?, countAll_append, countAll]
      omega
  | _ => simp [count, parts, children, children?, content?, countAll]

/-- One line about a node. A literal has none if its value has no characters to show. -/
def summary? : Node → Option String
  | root _ quirksMode children =>
    some s!"Root(children={children.length}, quirks_mode={(Value.bool quirksMode).text})"
  | element _ tag children _ =>
    some s!"Element(<{tag.name.text}>, children={children.length})"
  | literal _ kind value => value.excerpt?.map fun v => s!"{kind.title}({v.literal})"
  | doctype _ => some "Doctype()"

end Node

end MarkupTree

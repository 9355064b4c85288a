import MarkupTree.Node.Basic

namespace MarkupTree.Node

mutual

/-- The nodes of a document tree, each before its children and these before its content. -/
def preorder : Node → List Node
  | root p quirksMode children => root p quirksMode children :: preorderAll children
  | element p tag children none => element p tag children none :: preorderAll children
  | element p tag children (some content) =>
    element p tag children (some content) :: (preorderAll children ++ preorder content)
  | literal p kind value => [literal p kind value]
  | doctype p => [doctype p]

def preorderAll : List Node → List Node
  | [] => []
  | node :: rest => preorder node ++ preorderAll rest

end

@[simp] theorem parts_root (p : Option Position) (quirksMode : Bool) (children : List Node) :
    (root p quirksMode children).parts = children := by
  simp [parts, Node.children, children?, content?]

@[simp] theorem parts_element (p : Option Position) (tag : Tag) (children : List Node)
    (content : Option Node) : (element p tag children content).parts = children ++ content.toList :=
  rfl

theorem preorderAll_eq (nodes : List Node) : preorderAll nodes = nodes.flatMap preorder := by
  induction nodes with
  | nil => rfl
  | cons node rest ih => rw [preorderAll, ih, List.flatMap_cons]

theorem preorder_eq (node : Node) : node.preorder = node :: node.parts.flatMap preorder := by
  cases node with
  | element _ _ _ content =>
    cases content <;> simp [preorder, preorderAll_eq]
  | root _ _ _ => simp [preorder, preorderAll_eq]
  | _ => rfl

theorem count_le_countAll {node : Node} {nodes : List Node} (h : node ∈ nodes) :
    node.count ≤ countAll nodes := by
  obtain ⟨before, after, rfl⟩ := List.append_of_mem h
  rw [countAll_append, countAll]
  omega

/-- Induction on a document tree, through the children and the content of a node alike. -/
@[elab_as_elim]
theorem parts_induction {motive : Node → Prop}
    (parts : ∀ node : Node, (∀ part ∈ node.parts, motive part) → motive node) (node : Node) :
    motive node :=
  parts node fun part _ => parts_induction parts part
termination_by node.count
decreasing_by
  have hle : part.count ≤ countAll node.parts := count_le_countAll (by assumption)
  have hcount := node.count_eq
  omega

def atPlaces (position : Option Position) (positions : Option TagPositions) : Node → Node
  | root _ quirksMode children => root position quirksMode children
  | element _ tag children content =>
    element position { tag with positions := positions } children content
  | literal _ kind value => literal position kind value
  | doctype _ => doctype position

theorem withPosition_eq (p : Option Position) (node : Node) :
    node.withPosition p = node.atPlaces p (node.tag?.bind Tag.positions) := by
  cases node <;> rfl

@[simp] theorem withPosition_position (node : Node) : node.withPosition node.position = node := by
  cases node <;> rfl

@[simp] theorem position_withPosition (p : Option Position) (node : Node) :
    (node.withPosition p).position = p := by
  cases node <;> rfl

theorem atPlaces_self (node : Node) :
    node.atPlaces node.position (node.tag?.bind Tag.positions) = node := by
  cases node <;> rfl

@[simp] theorem withPosition_atPlaces (p q : Option Position) (positions : Option TagPositions)
    (node : Node) : (node.atPlaces q positions).withPosition p = node.atPlaces p positions := by
  cases node <;> rfl

@[simp] theorem children_atPlaces (p : Option Position) (positions : Option TagPositions)
    (node : Node) : (node.atPlaces p positions).children = node.children := by
  cases node <;> rfl

@[simp] theorem parts_atPlaces (p : Option Position) (positions : Option TagPositions)
    (node : Node) : (node.atPlaces p positions).parts = node.parts := by
  cases node <;> rfl

end MarkupTree.Node

import MarkupTree.Source.Node

namespace MarkupTree.Source.Node

/-- Induction on a parse tree, through the children and the content of a node alike. -/
@[elab_as_elim, induction_eliminator]
theorem induction {motive : Source.Node → Prop}
    (mk : ∀ form payload children content, (∀ node ∈ children, motive node) →
      (∀ node ∈ content, motive node) → motive (.mk form payload children content)) :
    ∀ node, motive node
  | .mk form payload children content =>
    mk form payload children content
      (fun node _hmem => induction mk node) (fun node _hmem => induction mk node)
termination_by node => sizeOf node
decreasing_by
  · have := List.sizeOf_lt_of_mem _hmem
    simp only [Source.Node.mk.sizeOf_spec]
    omega
  · obtain rfl := Option.mem_def.mp _hmem
    simp only [Source.Node.mk.sizeOf_spec, Option.some.sizeOf_spec]
    omega

mutual

/-- The nodes of a tree, each before its children and these before its content. The children are
gone through where `down` holds of a node, and the content where `inside` does. -/
def preorder (down inside : Source.Node → Bool) : Source.Node → List Source.Node
  | mk form payload children content =>
    let node := mk form payload children content
    node :: ((if down node then preorderAll down inside children else []) ++
      if inside node then preorderContent down inside content else [])

def preorderAll (down inside : Source.Node → Bool) : List Source.Node → List Source.Node
  | [] => []
  | node :: rest => preorder down inside node ++ preorderAll down inside rest

def preorderContent (down inside : Source.Node → Bool) : Option Source.Node → List Source.Node
  | none => []
  | some node => preorder down inside node

end

def parts (down inside : Source.Node → Bool) (node : Source.Node) : List Source.Node :=
  (if down node then node.children else []) ++ if inside node then node.content?.toList else []

variable (down inside : Source.Node → Bool)

theorem preorderAll_eq (nodes : List Source.Node) :
    preorderAll down inside nodes = nodes.flatMap (preorder down inside) := by
  induction nodes with
  | nil => rfl
  | cons node rest ih => rw [preorderAll, ih, List.flatMap_cons]

theorem preorder_eq (node : Source.Node) :
    node.preorder down inside =
      node :: (node.parts down inside).flatMap (preorder down inside) := by
  obtain ⟨form, payload, children, content⟩ := node
  rw [preorder, parts, List.flatMap_append]
  congr 2
  · split
    · exact preorderAll_eq down inside children
    · rfl
  · split
    · cases content <;> simp [preorderContent, content?]
    · rfl

end MarkupTree.Source.Node

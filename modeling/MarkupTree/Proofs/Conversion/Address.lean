import MarkupTree.Proofs.Conversion.Independence
import MarkupTree.Proofs.Conversion.Survival

namespace MarkupTree

inductive Turn where
  | child (i : Nat)
  | content
  deriving DecidableEq, Repr

namespace Source.Node

/-- The node at the end of a path that only leads through nodes which a conversion keeps. -/
def keptAt? : List Turn → Source.Node → Option Source.Node
  | [], node => some node
  | .child i :: rest, node =>
    if node.keepsChildren then node.children[i]?.bind (keptAt? rest) else none
  | .content :: rest, node =>
    if node.isTemplate then node.content?.bind (keptAt? rest) else none

def modifyAt (f : Source.Node → Source.Node) : List Turn → Source.Node → Source.Node
  | [], node => f node
  | .child i :: rest, mk form payload children content =>
    mk form payload (children.modify i (modifyAt f rest)) content
  | .content :: rest, mk form payload children content =>
    mk form payload children (content.map (modifyAt f rest))

section
variable (f : Source.Node → Source.Node) (i : Nat) (rest : List Turn) (tree : Source.Node)

@[simp] theorem children_modifyAt_child : (tree.modifyAt f (.child i :: rest)).children =
    tree.children.modify i (modifyAt f rest) := by
  cases tree
  rfl

@[simp] theorem content?_modifyAt_child :
    (tree.modifyAt f (.child i :: rest)).content? = tree.content? := by
  cases tree
  rfl

@[simp] theorem children_modifyAt_content :
    (tree.modifyAt f (.content :: rest)).children = tree.children := by
  cases tree
  rfl

@[simp] theorem content?_modifyAt_content :
    (tree.modifyAt f (.content :: rest)).content? = tree.content?.map (modifyAt f rest) := by
  cases tree
  rfl

end

def withChildren (children : List Source.Node) : Source.Node → Source.Node
  | mk form payload _ content => mk form payload children content

@[simp] theorem children_withChildren (children : List Source.Node) (node : Source.Node) :
    (node.withChildren children).children = children := by
  cases node
  rfl

@[simp] theorem content?_withChildren (children : List Source.Node) (node : Source.Node) :
    (node.withChildren children).content? = node.content? := by
  cases node
  rfl

theorem withChildren_resembles (children : List Source.Node) (node : Source.Node) :
    (node.withChildren children).Resembles node := by
  obtain ⟨form, payload, _, content⟩ := node
  exact ⟨rfl, rfl, rfl⟩

theorem modifyAt_resembles {f : Source.Node → Source.Node} (hf : ∀ n, (f n).Resembles n)
    (path : List Turn) (tree : Source.Node) : (tree.modifyAt f path).Resembles tree := by
  obtain ⟨form, payload, children, content⟩ := tree
  match path with
  | [] => exact hf _
  | .child _ :: _ => exact ⟨rfl, rfl, rfl⟩
  | .content :: _ => exact ⟨rfl, rfl, Option.isSome_map⟩

theorem keptAt?_append (path rest : List Turn) (tree : Source.Node) :
    tree.keptAt? (path ++ rest) = (tree.keptAt? path).bind (keptAt? rest) := by
  induction path generalizing tree with
  | nil => rfl
  | cons turn path ih =>
    cases turn with
    | child i =>
      simp only [List.cons_append, keptAt?]
      split
      · cases tree.children[i]? with
        | none => rfl
        | some s => exact ih s
      · rfl
    | content =>
      simp only [List.cons_append, keptAt?]
      split
      · cases tree.content? with
        | none => rfl
        | some s => exact ih s
      · rfl

theorem keptAt?_child_eq_some_iff {i : Nat} {rest : List Turn} {tree source : Source.Node} :
    tree.keptAt? (.child i :: rest) = some source ↔
      tree.keepsChildren ∧ ∃ s, tree.children[i]? = some s ∧ s.keptAt? rest = some source := by
  rw [keptAt?]
  split <;> simp_all [Option.bind_eq_some_iff]

theorem keptAt?_content_eq_some_iff {rest : List Turn} {tree source : Source.Node} :
    tree.keptAt? (.content :: rest) = some source ↔
      tree.isTemplate ∧ ∃ s, tree.content? = some s ∧ s.keptAt? rest = some source := by
  rw [keptAt?]
  split <;> simp_all [Option.bind_eq_some_iff]

/-- The surviving nodes are those at the end of such a path. -/
theorem mem_survivors_iff {tree source : Source.Node} :
    source ∈ tree.survivors ↔ ∃ path, tree.keptAt? path = some source := by
  induction tree with
  | mk form payload children content ihc iht =>
    rw [survivors_eq, List.mem_cons, List.mem_flatMap]
    constructor
    · rintro (rfl | ⟨s, hs, hsource⟩)
      · exact ⟨[], rfl⟩
      · rcases List.mem_append.mp hs with hs | hs
        · split at hs
          · next hkeeps =>
            obtain ⟨path, hpath⟩ := (ihc s hs).mp hsource
            obtain ⟨i, hi⟩ := List.mem_iff_getElem?.mp hs
            exact ⟨.child i :: path, keptAt?_child_eq_some_iff.mpr ⟨hkeeps, s, hi, hpath⟩⟩
          · cases hs
        · split at hs
          · next htemplate =>
            have hcontent := Option.mem_toList.mp hs
            obtain ⟨path, hpath⟩ := (iht s hcontent).mp hsource
            exact ⟨.content :: path,
              keptAt?_content_eq_some_iff.mpr ⟨htemplate, s, hcontent, hpath⟩⟩
          · cases hs
    · rintro ⟨path, hpath⟩
      match path with
      | [] => exact .inl (Option.some.inj hpath).symm
      | .child i :: rest =>
        obtain ⟨hkeeps, s, hi, hrest⟩ := keptAt?_child_eq_some_iff.mp hpath
        have hs := List.mem_of_getElem? hi
        refine .inr ⟨s, List.mem_append_left _ ?_, (ihc s hs).mpr ⟨rest, hrest⟩⟩
        rwa [if_pos hkeeps]
      | .content :: rest =>
        obtain ⟨htemplate, s, hcontent, hrest⟩ := keptAt?_content_eq_some_iff.mp hpath
        refine .inr ⟨s, List.mem_append_right _ ?_, (iht s hcontent).mpr ⟨rest, hrest⟩⟩
        rw [if_pos htemplate]
        exact Option.mem_toList.mpr hcontent

theorem Resembles.keepsChildren_eq {node node' : Source.Node} (h : node'.Resembles node) :
    node'.keepsChildren = node.keepsChildren := by
  rw [keepsChildren, keepsChildren, h.rule?_eq, h.isTemplate_eq, h.hasContent]

theorem keptAt?_modifyAt {f : Source.Node → Source.Node} {path : List Turn}
    {tree source : Source.Node} (hf : ∀ n, (f n).Resembles n)
    (h : tree.keptAt? path = some source) :
    (tree.modifyAt f path).keptAt? path = some (f source) := by
  induction path generalizing tree with
  | nil =>
    obtain rfl := Option.some.inj h
    rfl
  | cons turn rest ih =>
    have hsame := modifyAt_resembles hf (turn :: rest) tree
    cases turn with
    | child i =>
      obtain ⟨hkeeps, s, hi, hrest⟩ := keptAt?_child_eq_some_iff.mp h
      rw [← hsame.keepsChildren_eq] at hkeeps
      refine keptAt?_child_eq_some_iff.mpr ⟨hkeeps, s.modifyAt f rest, ?_, ih hrest⟩
      rw [children_modifyAt_child, List.getElem?_modify_eq, hi]
      rfl
    | content =>
      obtain ⟨htemplate, s, hcontent, hrest⟩ := keptAt?_content_eq_some_iff.mp h
      rw [← hsame.isTemplate_eq] at htemplate
      refine keptAt?_content_eq_some_iff.mpr ⟨htemplate, s.modifyAt f rest, ?_, ih hrest⟩
      rw [content?_modifyAt_content, hcontent]
      rfl

end Source.Node

/-- A tree goes on being converted when a part of it is changed to one that is, too. -/
theorem converts_modifyAt {context : Context} {f : Source.Node → Source.Node} {path : List Turn}
    {tree source : Source.Node} (hf : ∀ n, (f n).Resembles n)
    (htree : Converts context tree) (hsource : tree.keptAt? path = some source)
    (hchanged : Converts context (f source)) : Converts context (tree.modifyAt f path) := by
  induction path generalizing tree with
  | nil =>
    obtain rfl := Option.some.inj hsource
    exact hchanged
  | cons turn rest ih =>
    have hsame := Source.Node.modifyAt_resembles hf (turn :: rest) tree
    obtain ⟨result, run', hresult⟩ := htree default
    refine converts_of_resembles hsame hresult (fun n hn => ?_) (fun n hn => ?_)
    · cases turn with
      | content =>
        rw [Source.Node.children_modifyAt_content] at hn
        exact htree.child hn
      | child i =>
        obtain ⟨-, s, hi, hrest⟩ := Source.Node.keptAt?_child_eq_some_iff.mp hsource
        rw [Source.Node.children_modifyAt_child] at hn
        obtain ⟨j, hj⟩ := List.mem_iff_getElem?.mp hn
        rw [List.getElem?_modify, Option.map_eq_map, Option.map_eq_some_iff] at hj
        obtain ⟨s', hs', rfl⟩ := hj
        split
        · next hij =>
          obtain rfl : s = s' := Option.some.inj (hi.symm.trans (hij ▸ hs'))
          exact ih (htree.child (List.mem_of_getElem? hs')) hrest
        · exact htree.child (List.mem_of_getElem? hs')
    · rw [hsame.isTemplate_eq] at hn
      cases turn with
      | child i =>
        rw [Source.Node.content?_modifyAt_child] at hn
        exact htree.content hn
      | content =>
        obtain ⟨htemplate, s, hcontent, hrest⟩ :=
          Source.Node.keptAt?_content_eq_some_iff.mp hsource
        rw [if_pos htemplate, Source.Node.content?_modifyAt_content, hcontent] at hn
        obtain rfl := Option.some.inj hn
        refine ih (htree.content ?_) hrest
        rwa [if_pos htemplate]

namespace Node

/-- The nodes that stand for the children of a source, which a template has in its content. -/
def heldChildren (node : Node) : List Node := (node.content?.getD node).children

def at? : List Turn → Node → Option Node
  | [], node => some node
  | .child i :: rest, node => node.heldChildren[i]?.bind (at? rest)
  | .content :: rest, node => node.content?.bind (at? rest)

@[simp] theorem content?_atPlaces (p : Option Position) (positions : Option TagPositions)
    (node : Node) : (node.atPlaces p positions).content? = node.content? := by
  cases node <;> rfl

@[simp] theorem heldChildren_atPlaces (p : Option Position) (positions : Option TagPositions)
    (node : Node) : (node.atPlaces p positions).heldChildren = node.heldChildren := by
  cases node with
  | element _ _ _ content => cases content <;> rfl
  | _ => rfl

theorem at?_append (path rest : List Turn) (node : Node) :
    node.at? (path ++ rest) = (node.at? path).bind (at? rest) := by
  induction path generalizing node with
  | nil => rfl
  | cons turn path ih =>
    cases turn with
    | child i =>
      rw [List.cons_append, at?, at?]
      cases node.heldChildren[i]? with
      | none => rfl
      | some n => exact ih n
    | content =>
      rw [List.cons_append, at?, at?]
      cases node.content? with
      | none => rfl
      | some n => exact ih n

theorem at?_withPosition (p : Option Position) {path : List Turn} (h : path ≠ []) (node : Node) :
    (node.withPosition p).at? path = node.at? path := by
  rw [withPosition_eq]
  match path with
  | [] => exact absurd rfl h
  | .child i :: rest => rw [at?, at?, heldChildren_atPlaces]
  | .content :: rest => rw [at?, at?, content?_atPlaces]

end Node

section
variable {context : Context} {source : Source.Node} {children : List Node}
  {content : Option Node} {run run' : Run} {result : Node}

theorem Rule.convert_heldChildren {rule : Rule} (hrule : source.rule? = some rule)
    (hkeeps : source.keepsChildren)
    (hcontent : source.isTemplate → source.content? = none → content = none)
    (h : rule.convert context source children content run = (.ok result, run')) :
    result.heldChildren = children := by
  cases rule with
  | root =>
    obtain ⟨p, rfl⟩ := convert_root_eq_ok h
    rfl
  | element =>
    obtain ⟨tag, ⟨-, rfl⟩ | ⟨-, -, rfl⟩ | ⟨htemplate, c, rfl, -⟩⟩ :=
      convertElement_shape hrule (convert_element_eq_ok h)
    · rfl
    · rfl
    · have hnone : source.content? = none := by
        simpa [Source.Node.keepsChildren, hrule, htemplate] using hkeeps
      cases hcontent htemplate hnone
  | text | comment | doctype => simp [Source.Node.keepsChildren, hrule] at hkeeps

end

end MarkupTree

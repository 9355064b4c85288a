import MarkupTree.Proofs.Conversion.Address

namespace MarkupTree

namespace Source.Node

/-- The nodes that a conversion of a tree is done with when it enters the one at the end of a
path. -/
def visitedBefore : List Turn → Source.Node → List Source.Node
  | [], _ => []
  | .child i :: rest, node =>
    (node.children.take i).flatMap visited ++ (node.children[i]?.map (visitedBefore rest)).getD []
  | .content :: rest, node =>
    node.children.flatMap visited ++ (node.content?.map (visitedBefore rest)).getD []

/-- Where the tags of a template put the node at the end of a path, if it is its content. -/
def contentSpan? : List Turn → Source.Node → Option Position
  | [], _ => none
  | .child i :: rest, node => node.children[i]?.bind (contentSpan? rest)
  | .content :: rest, node =>
    (node.content?.bind (contentSpan? rest)).or
      (if rest = [] then contentPosition? node.location else none)

theorem contentSpan?_of_getLast?_ne {path : List Turn} (h : path.getLast? ≠ some .content)
    (tree : Source.Node) : tree.contentSpan? path = none := by
  induction path generalizing tree with
  | nil => rfl
  | cons turn rest ih =>
    have hrest : rest.getLast? ≠ some .content := by
      cases rest with
      | nil => nofun
      | cons => rwa [List.getLast?_cons_cons] at h
    cases turn with
    | child i =>
      rw [contentSpan?]
      cases tree.children[i]? with
      | none => rfl
      | some s => exact ih hrest s
    | content =>
      have hne : rest ≠ [] := by
        rintro rfl
        exact h rfl
      rw [contentSpan?, if_neg hne, Option.or_none]
      cases tree.content? with
      | none => rfl
      | some s => exact ih hrest s

theorem contentSpan?_content {path : List Turn} {tree source : Source.Node}
    (h : tree.keptAt? path = some source) (hcontent : source.content?.isSome) :
    tree.contentSpan? (path ++ [.content]) = contentPosition? source.location := by
  induction path generalizing tree with
  | nil =>
    obtain rfl := Option.some.inj h
    obtain ⟨s, hs⟩ := Option.isSome_iff_exists.mp hcontent
    rw [List.nil_append, contentSpan?, hs]
    rfl
  | cons turn rest ih =>
    cases turn with
    | child i =>
      obtain ⟨-, s, hi, hrest⟩ := keptAt?_child_eq_some_iff.mp h
      rw [List.cons_append, contentSpan?, hi]
      exact ih hrest
    | content =>
      obtain ⟨-, s, hs, hrest⟩ := keptAt?_content_eq_some_iff.mp h
      have hne : rest ++ [Turn.content] ≠ [] := List.append_ne_nil_of_right_ne_nil _ nofun
      rw [List.cons_append, contentSpan?, hs, if_neg hne, Option.or_none]
      exact ih hrest

end Source.Node

section
variable {context : Context} {source s : Source.Node} {children : List Node}
  {content : Option Node} {run run' : Run} {result : Node} {i : Nat}

/-- Each result comes from the source at its place, after all that is in front of that. -/
theorem convertNodes_getElem? {sources : List Source.Node} {results : List Node}
    (h : convertNodes context sources run = (.ok results, run')) (hi : sources[i]? = some s) :
    ∃ t run₁ run₁', results[i]? = some t ∧ convertNode context s run₁ = (.ok t, run₁') ∧
      run.Follows context.text ((sources.take i).flatMap Source.Node.visited) run₁ := by
  induction sources generalizing run results i with
  | nil => cases hi
  | cons first rest ih =>
    simp only [convertNodes_cons, Outcome.andThen_eq_ok_iff] at h
    obtain ⟨t, run₁, ht, ts, run₂, hts, hr⟩ := h
    cases hr
    cases i with
    | zero =>
      obtain rfl := Option.some.inj hi
      exact ⟨t, run, run₁, rfl, ht, .of_kept rfl rfl rfl⟩
    | succ i =>
      obtain ⟨u, run₃, run₃', hu, hs, hfollows⟩ := ih hts hi
      refine ⟨u, run₃, run₃', hu, hs, ?_⟩
      rw [List.take_succ_cons, List.flatMap_cons]
      exact (convertNode_follows first _ _ _ _ ht).trans hfollows

/-- A node that keeps its children holds what they convert to, and they are the first to be
converted. -/
theorem convertNode_heldChildren (hkeeps : source.keepsChildren)
    (h : convertNode context source run = (.ok result, run')) :
    ∃ run₁, convertNodes context source.children run = (.ok result.heldChildren, run₁) := by
  obtain ⟨a, children, content, run₁, run₂, ha, hchildren, hcontent, hcomplete⟩ :=
    convertNode_eq_ok_of_parts_iff.mp h
  obtain ⟨made, run₃, p, positions, hmade, rfl⟩ := Admission.complete_eq_ok hcomplete
  have hnone : source.isTemplate → source.content? = none → content = none := by
    intro htemplate hno
    rw [if_pos htemplate, hno] at hcontent
    cases hcontent
    rfl
  refine ⟨run₁, ?_⟩
  rw [Node.heldChildren_atPlaces,
    Rule.convert_heldChildren (Admission.of_eq_ok ha).1 hkeeps hnone hmade, hchildren]

theorem convertNode_length_heldChildren (hkeeps : source.keepsChildren)
    (h : convertNode context source run = (.ok result, run')) :
    result.heldChildren.length = source.children.length := by
  obtain ⟨run₁, hchildren⟩ := convertNode_heldChildren hkeeps h
  exact (convertNodes_forall₂ (R := fun _ _ => True) hchildren
    fun _ _ _ _ _ _ => trivial).length_eq.symm

theorem Rule.convert_content {rule : Rule} {c : Node} (hrule : source.rule? = some rule)
    (htemplate : source.isTemplate)
    (h : rule.convert context source children (some c) run = (.ok result, run')) :
    result.content? = some (c.withPosition
      ((if context.text.isSome then contentPosition? source.location else none).or
        c.position)) := by
  rw [Source.Node.rule?_isTemplate htemplate] at hrule
  cases hrule
  obtain ⟨tag, ⟨hplain, -⟩ | ⟨-, hnone, -⟩ | ⟨-, c', hc, rfl⟩⟩ :=
    convertElement_shape (Source.Node.rule?_isTemplate htemplate) (convert_element_eq_ok h)
  · rw [hplain] at htemplate
    cases htemplate
  · cases hnone
  · cases hc
    rfl

theorem convertNode_content (htemplate : source.isTemplate) (hs : source.content? = some s)
    (h : convertNode context source run = (.ok result, run')) :
    ∃ c run₁ run₁', convertNode context s run₁ = (.ok c, run₁') ∧
      run.Follows context.text (source.children.flatMap Source.Node.visited) run₁ ∧
      result.content? = some (c.withPosition
        ((if context.text.isSome then contentPosition? source.location else none).or
          c.position)) := by
  obtain ⟨a, children, content, run₁, run₂, ha, hchildren, hcontent, hcomplete⟩ :=
    convertNode_eq_ok_of_parts_iff.mp h
  obtain ⟨hrule, hcontext, -⟩ := Admission.of_eq_ok ha
  obtain ⟨made, run₃, p, positions, hmade, rfl⟩ := Admission.complete_eq_ok hcomplete
  rw [if_pos htemplate, hs] at hcontent
  rcases convertContent_eq_ok hcontent with ⟨hnone, -, -⟩ | ⟨s', c, hs', rfl, hc⟩
  · cases hnone
  · cases hs'
    have hbefore := convertNodes_follows hchildren fun s _ => convertNode_follows s _
    refine ⟨c, run₁, run₂, hc, hbefore, ?_⟩
    rw [Node.content?_atPlaces, Rule.convert_content hrule htemplate hmade, hcontext,
      Context.text_below]

end

/-- At the end of every kept path of a tree the result has what the node there converts to, after
all that a conversion of the tree enters first. Only the content of a template is moved
afterwards. -/
theorem convertNode_reached {context : Context} {path : List Turn} :
    ∀ {tree source : Source.Node} {run run' : Run} {node : Node},
      convertNode context tree run = (.ok node, run') → tree.keptAt? path = some source →
        ∃ result run₁ run₁', convertNode context source run₁ = (.ok result, run₁') ∧
          run.Follows context.text (tree.visitedBefore path) run₁ ∧
          node.at? path = some (result.withPosition
            ((if context.text.isSome then tree.contentSpan? path else none).or
              result.position)) := by
  induction path with
  | nil =>
    intro tree source run run' node h hsource
    obtain rfl := Option.some.inj hsource
    refine ⟨node, run, run', h, .of_kept rfl rfl rfl, ?_⟩
    rw [Source.Node.contentSpan?, ite_self, Option.none_or, Node.withPosition_position]
    rfl
  | cons turn rest ih =>
    intro tree source run run' node h hsource
    cases turn with
    | child i =>
      obtain ⟨hkeeps, s, hi, hrest⟩ := Source.Node.keptAt?_child_eq_some_iff.mp hsource
      obtain ⟨run₀, hchildren⟩ := convertNode_heldChildren hkeeps h
      obtain ⟨t, run₁, run₁', hheld, ht, hbefore⟩ := convertNodes_getElem? hchildren hi
      obtain ⟨result, run₂, run₂', hresult, hfollows, hat⟩ := ih ht hrest
      refine ⟨result, run₂, run₂', hresult, ?_, ?_⟩
      · rw [Source.Node.visitedBefore, hi]
        exact hbefore.trans hfollows
      · rw [Node.at?, hheld, Source.Node.contentSpan?, hi]
        exact hat
    | content =>
      obtain ⟨htemplate, s, hcontent, hrest⟩ := Source.Node.keptAt?_content_eq_some_iff.mp hsource
      obtain ⟨c, run₁, run₁', hc, hbefore, hheld⟩ := convertNode_content htemplate hcontent h
      rw [Node.at?, hheld, Option.bind_some, Source.Node.visitedBefore, Source.Node.contentSpan?,
        hcontent, Option.map_some, Option.getD_some, Option.bind_some]
      cases rest with
      | nil =>
        -- The path ends at the content itself, which is where the tags put it.
        obtain rfl := Option.some.inj hrest
        exact ⟨c, run₁, run₁', hc, hbefore.trans (.of_kept rfl rfl rfl), rfl⟩
      | cons turn rest =>
        obtain ⟨result, run₂, run₂', hresult, hfollows, hat⟩ := ih hc hrest
        refine ⟨result, run₂, run₂', hresult, hbefore.trans hfollows, ?_⟩
        rw [Node.at?_withPosition _ (List.cons_ne_nil _ _), if_neg (List.cons_ne_nil _ _),
          Option.or_none]
        exact hat

theorem convertNode_position_at {context : Context} {path : List Turn} {tree source : Source.Node}
    {run run' : Run} {node : Node} (htext : context.text.isSome)
    (h : convertNode context tree run = (.ok node, run'))
    (hsource : tree.keptAt? path = some source) : ∃ result r run₁ run₁',
      convertNode context source run₁ = (.ok result, run₁') ∧
      run.Follows context.text (tree.visitedBefore path) run₁ ∧ node.at? path = some r ∧
      r.position = (tree.contentSpan? path).or result.position := by
  obtain ⟨result, run₁, run₁', hresult, hbefore, hat⟩ := convertNode_reached h hsource
  refine ⟨result, _, run₁, run₁', hresult, hbefore, hat, ?_⟩
  rw [Node.position_withPosition, if_pos htext]

/-- What a path leads to in a result is what the node there converts to, up to its position where it
is the content of a template. -/
theorem convertNode_at {context : Context} {path : List Turn} {tree source : Source.Node}
    {run run' : Run} {node : Node} (h : convertNode context tree run = (.ok node, run'))
    (hsource : tree.keptAt? path = some source) : ∃ result p run₁ run₁',
      convertNode context source run₁ = (.ok result, run₁') ∧
      node.at? path = some (result.withPosition p) ∧
      (path.getLast? ≠ some .content → result.withPosition p = result) := by
  obtain ⟨result, run₁, run₁', hresult, -, hat⟩ := convertNode_reached h hsource
  refine ⟨result, _, run₁, run₁', hresult, hat, fun hne => ?_⟩
  rw [Source.Node.contentSpan?_of_getLast?_ne hne, ite_self, Option.none_or,
    Node.withPosition_position]

end MarkupTree

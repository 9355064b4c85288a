import MarkupTree.Proofs.Conversion.RootPosition

namespace MarkupTree

namespace Node

def HasPosition (node : Node) : Prop := ∃ n ∈ node.preorder, n.position.isSome

theorem hasPosition_iff (node : Node) :
    node.HasPosition ↔ node.position.isSome ∨ ∃ part ∈ node.parts, part.HasPosition := by
  unfold HasPosition
  rw [preorder_eq]
  simp only [List.mem_cons, exists_eq_or_imp, List.mem_flatMap]
  constructor
  · rintro (h | ⟨n, ⟨part, hpart, hn⟩, h⟩)
    · exact .inl h
    · exact .inr ⟨part, hpart, n, hn, h⟩
  · rintro (h | ⟨part, hpart, n, hn, h⟩)
    · exact .inl h
    · exact .inr ⟨n, ⟨part, hpart, hn⟩, h⟩

theorem hasPosition_of_none {node : Node} (h : node.position = none) :
    node.HasPosition ↔ ∃ part ∈ node.parts, part.HasPosition := by
  rw [hasPosition_iff, h]
  simp

theorem hasPosition_withPosition (p : Option Position) (node : Node) :
    (node.withPosition (p.or node.position)).HasPosition ↔ p.isSome ∨ node.HasPosition := by
  rw [hasPosition_iff, hasPosition_iff, position_withPosition, withPosition_eq, parts_atPlaces,
    Option.isSome_or, Bool.or_eq_true, or_assoc]

end Node

/-- The node is a template with content of its own, and its tags say where that starts or ends. -/
def Source.Node.SpansContent (node : Source.Node) : Prop :=
  node.isTemplate ∧ node.content?.isSome ∧ (contentPosition? node.location).isSome

def Context.Spans (context : Context) (nodes : List Source.Node) : Prop :=
  context.text.isSome ∧ ∃ n ∈ nodes, n.SpansContent

namespace Context
variable {context : Context} {node : Source.Node} {xs ys : List Source.Node}

theorem spans_append : context.Spans (xs ++ ys) ↔ context.Spans xs ∨ context.Spans ys := by
  simp only [Spans, List.mem_append, or_and_right, exists_or, and_or_left]

theorem spans_cons :
    context.Spans (node :: xs) ↔ (context.text.isSome ∧ node.SpansContent) ∨ context.Spans xs := by
  simp only [Spans, List.mem_cons, exists_eq_or_imp, and_or_left]

@[simp] theorem spans_below (source : Source.Node) :
    (context.below source).Spans xs ↔ context.Spans xs := by
  simp [Spans]

theorem not_spans_nil : ¬context.Spans [] := by
  rintro ⟨-, n, hn, -⟩
  cases hn

theorem spans_cons_of_not (h : ¬node.SpansContent) :
    context.Spans (node :: xs) ↔ context.Spans xs := by
  rw [spans_cons]
  exact or_iff_right fun hspans => h hspans.2

end Context

namespace Rule
variable {context : Context} {source : Source.Node} {children : List Node}
  {content : Option Node} {run run' : Run} {result : Node}

theorem convertElement_hasPosition (hrule : source.rule? = some .element)
    (hchildren : (∃ t ∈ children, t.HasPosition) ↔
      context.Spans (source.children.flatMap Source.Node.survivors))
    (hcontent : ContentFrom (fun s t => t.HasPosition ↔ context.Spans s.survivors) source content)
    (h : convertElement context source children content = .ok result) :
    result.HasPosition ↔ context.Spans source.survivors := by
  obtain ⟨tag, ⟨htemplate, rfl⟩ | ⟨htemplate, rfl, rfl⟩ | ⟨htemplate, c, rfl, rfl⟩⟩ :=
    convertElement_shape hrule h
  · have hnot : ¬source.SpansContent := fun hspans => by simp_all [Source.Node.SpansContent]
    rw [Node.hasPosition_of_none rfl, Source.Node.survivors_of_plain hrule htemplate,
      Context.spans_cons_of_not hnot, ← hchildren]
    simp
  · have hnone : source.content? = none := by
      rcases hcontent with ⟨-, hnone⟩ | ⟨s, t, -, -, ht, -⟩
      · exact hnone htemplate
      · cases ht
    have hnot : ¬source.SpansContent := fun hspans => by simp_all [Source.Node.SpansContent]
    rw [Node.hasPosition_of_none rfl, Source.Node.survivors_of_template htemplate, hnone,
      Context.spans_cons_of_not hnot]
    -- The new root has no position, and it has the children.
    simp only [Node.parts_element, List.nil_append, Option.toList_some, List.mem_singleton,
      exists_eq_left, Option.elim_none]
    rw [Node.hasPosition_of_none rfl, Node.parts_root, hchildren]
  · rcases hcontent with ⟨hc, -⟩ | ⟨s, t, -, hs, ht, hst⟩
    · cases hc
    · cases ht
      rw [Node.hasPosition_of_none rfl, Source.Node.survivors_of_template htemplate, hs,
        Context.spans_cons]
      simp only [Node.parts_element, List.nil_append, Option.toList_some, List.mem_singleton,
        exists_eq_left, Option.elim_some, List.flatMap_cons, List.flatMap_nil, List.append_nil]
      rw [Node.hasPosition_withPosition, hst]
      apply or_congr_left
      simp only [Source.Node.SpansContent, htemplate, hs, Option.isSome_some, true_and]
      split <;> simp_all

theorem convert_hasPosition {rule : Rule} (hrule : source.rule? = some rule)
    (hflag : run.located = false)
    (hchildren : (∃ t ∈ children, t.HasPosition) ↔
      context.Spans (source.children.flatMap Source.Node.survivors))
    (hcontent : ContentFrom (fun s t => t.HasPosition ↔ context.Spans s.survivors) source content)
    (h : rule.convert context source children content run = (.ok result, run')) :
    result.HasPosition ↔ context.Spans source.survivors := by
  have hnot (hne : source.rule? ≠ some .element) : ¬source.SpansContent :=
    fun hspans => hne (Source.Node.rule?_isTemplate hspans.1)
  have hleaf (hroot : source.rule? ≠ some .root) (hne : source.rule? ≠ some .element)
      (hposition : result.position = none) (hparts : result.parts = []) :
      result.HasPosition ↔ context.Spans source.survivors := by
    rw [Node.hasPosition_of_none hposition, hparts, Source.Node.survivors_of_leaf hroot hne,
      Context.spans_cons_of_not (hnot hne)]
    simp [Context.not_spans_nil]
  cases rule with
  | root =>
    have hroot : (convertRoot context source children run).1 = result :=
      Except.ok.inj (congrArg Prod.fst h)
    rw [convertRoot_of_unlocated (by simp [hflag])] at hroot
    rw [← hroot, Node.hasPosition_of_none rfl, Source.Node.survivors_of_root hrule,
      Context.spans_cons_of_not (hnot (by simp [hrule])), Node.parts_root, hchildren]
  | element => exact convertElement_hasPosition hrule hchildren hcontent (convert_element_eq_ok h)
  | text | comment | doctype =>
    rcases convert_leaf_eq_ok h nofun nofun with ⟨kind, value, rfl⟩ | rfl
    · exact hleaf (by simp [hrule]) (by simp [hrule]) rfl rfl
    · exact hleaf (by simp [hrule]) (by simp [hrule]) rfl rfl

end Rule

section
variable {context : Context} {run run' : Run}

theorem Run.Follows.unlocated {text : Option String} {nodes : List Source.Node}
    (h : run.Follows text nodes run') (hflag : run.located = false)
    (hnodes : ∀ n ∈ nodes, ¬n.IsLocated) : run'.located = false := by
  rw [Bool.eq_false_iff]
  intro hlocated
  rcases h.located.mp hlocated with hrun | ⟨-, n, hn, hplace⟩
  · simp [hflag] at hrun
  · exact hnodes n hn hplace

theorem locate_hasPosition {source : Source.Node} (h : ¬source.IsLocated) (context : Context)
    (node : Node) (run : Run) :
    (locate context source.location node run).1.HasPosition ↔ node.HasPosition := by
  have hposition : (locate context source.location node run).1.position = node.position := by
    have hplace : (node.place context.space context.verbose.truthy source.location).1 = none := by
      rw [← Option.isNone_iff_eq_none, ← Option.not_isSome, Node.place_isSome]
      exact (Bool.not_eq_true' _).mpr (Bool.eq_false_iff.mpr (mt source.place?_isSome_iff.mp h))
    rw [position_locate, hplace, ite_self, Option.none_or]
  obtain ⟨p, positions, hmoved⟩ := locate_eq context source.location node run
  rw [Node.hasPosition_iff, Node.hasPosition_iff, hposition, hmoved, Node.parts_atPlaces]

theorem convertNodes_hasPosition {sources : List Source.Node} {results : List Node}
    (h : convertNodes context sources run = (.ok results, run')) (hflag : run.located = false)
    (hno : ∀ s ∈ sources, ∀ n ∈ s.visited, ¬n.IsLocated)
    (hs : ∀ s ∈ sources, ∀ run t run', run.located = false →
      convertNode context s run = (.ok t, run') →
        (t.HasPosition ↔ context.Spans s.survivors)) :
    (∃ t ∈ results, t.HasPosition) ↔
      context.Spans (sources.flatMap Source.Node.survivors) := by
  induction sources generalizing run results with
  | nil =>
    cases h
    simp [Context.not_spans_nil]
  | cons s rest ih =>
    simp only [convertNodes_cons, Outcome.andThen_eq_ok_iff] at h
    obtain ⟨t, run₁, ht, ts, run₂, hts, hr⟩ := h
    cases hr
    have hflag₁ : run₁.located = false :=
      (convertNode_follows s _ _ _ _ ht).unlocated hflag (hno s List.mem_cons_self)
    have hrest := ih hts hflag₁ (fun s hmem => hno s (List.mem_cons_of_mem _ hmem))
      fun s hmem => hs s (List.mem_cons_of_mem _ hmem)
    rw [List.flatMap_cons, Context.spans_append, ← hrest,
      ← hs s List.mem_cons_self _ _ _ hflag ht]
    simp

end

/-- Where no node is located, the only positions are those that templates give to their content. -/
theorem convertNode_hasPosition (source : Source.Node) : ∀ context run result run',
    run.located = false → (∀ n ∈ source.visited, ¬n.IsLocated) →
      convertNode context source run = (.ok result, run') →
        (result.HasPosition ↔ context.Spans source.survivors) := by
  induction source with
  | mk form payload children content ihc iht =>
    intro context run result run' hflag hno h
    obtain ⟨admission, results, converted, run₁, run₂, ha, hchildren, hcontent, hcomplete⟩ :=
      convertNode_eq_ok_iff.mp h
    obtain ⟨hrule, hcontext, -⟩ := Admission.of_eq_ok ha
    obtain ⟨made, run₃, hmade, hlocate⟩ := Admission.complete_steps hcomplete
    rw [hcontext] at hmade hlocate
    rw [Source.Node.visited_eq_cons, List.forall_mem_cons] at hno
    obtain ⟨hself, hbelow⟩ := hno
    -- The run stays unlocated through the children and through the content.
    have hflag₁ : run₁.located = false :=
      (convertNodes_follows hchildren fun s _ => convertNode_follows s _).unlocated hflag
        fun n hn => hbelow n (List.mem_append_left _ hn)
    have hflag₂ : run₂.located = false :=
      (convertParts_follows (fun s _ => convertNode_follows s) hchildren hcontent).unlocated hflag
        hbelow
    have hchild {s : Source.Node} (hs : s ∈ children) : ∀ n ∈ s.visited, ¬n.IsLocated :=
      fun n hn => hbelow n (Source.Node.mem_visitedBelow_of_child hs hn)
    have hparts := convertNodes_hasPosition hchildren hflag (fun s hs => hchild hs)
      fun s hs run t run' hrun ht => ihc s hs _ run t run' hrun (hchild hs) ht
    have hfrom := convertContent_from hcontent fun s t htemplate hs ht =>
      iht s hs _ run₁ t run₂ hflag₁
        (fun n hn => hbelow n (Source.Node.mem_visitedBelow_of_content htemplate hs hn)) ht
    have hmadeIff := Rule.convert_hasPosition hrule hflag₂ hparts hfrom hmade
    have hplacedIff := locate_hasPosition hself (context.below (.mk form payload children content))
      made run₃
    rw [hlocate] at hplacedIff
    exact hplacedIff.trans (hmadeIff.trans (Context.spans_below _))

/-- A conversion with a file whose result has a position anywhere ends as located, and gives a root
a position, exactly if a node that it entered is located or no template gives its content one. -/
theorem convert_positioned_located_iff {run run' : Run} {options : Options File}
    {tree : Source.Node} {node : Node} (h : run.convert options tree = (.ok node, run'))
    (hfile : options.file.isSome) :
    ((∃ n ∈ node.preorder, n.position.isSome) →
        run'.located ∧ (tree.IsRoot → node.position.isSome)) ↔
      (∃ n ∈ tree.visited, n.IsLocated) ∨ ¬∃ n ∈ tree.survivors, n.SpansContent := by
  obtain ⟨log, log', run₂, hnode, rfl⟩ := Run.convert_steps h
  obtain ⟨file, hoptions⟩ := Option.isSome_iff_exists.mp hfile
  have htext : (Context.ofOptions options).text = some file.text := by
    simp [hoptions]
  have hflag : run₂.located ↔ ∃ n ∈ tree.visited, n.IsLocated := by
    rw [(convertNode_follows tree _ _ _ _ hnode).located, htext]
    simp [Run.restart]
  by_cases hvisited : ∃ n ∈ tree.visited, n.IsLocated
  · -- A located node marks the run, and a root then has its own position or spans the text.
    refine iff_of_true (fun _ => ⟨hflag.mpr hvisited, fun hroot => ?_⟩) (.inl hvisited)
    rw [convertNode_root_position htext hroot rfl rfl hnode, Option.isSome_or, Bool.or_eq_true]
    rw [Source.Node.visited_eq_cons] at hvisited
    simp only [List.mem_cons, exists_eq_or_imp] at hvisited
    rcases hvisited with hself | hbelow
    · exact .inl (tree.place?_isSome_iff.mpr hself)
    · rw [if_pos hbelow]
      exact .inr rfl
  · have hno : ∀ n ∈ tree.visited, ¬n.IsLocated := fun n hn hl => hvisited ⟨n, hn, hl⟩
    have hpositioned := convertNode_hasPosition tree _ _ _ _ rfl hno hnode
    simp only [Node.HasPosition, Context.Spans, htext, Option.isSome_some, true_and] at hpositioned
    have hunlocated : ¬run₂.located := mt hflag.mp hvisited
    constructor
    · intro himp
      refine .inr fun hspans => hunlocated (himp (hpositioned.mpr hspans)).1
    · rintro (hlocated | hspans)
      · exact absurd hlocated hvisited
      · exact fun hsome => absurd (hpositioned.mp hsome) hspans

def tagged : Source.Node :=
  .bare "document" none none
    [(Source.Node.bare "element" none "template" [] (some (.bare "fragment" none none [] none))).atLocation
      ⟨⟨⟨none, none, none⟩, ⟨none, none, none⟩⟩,
        some ⟨⟨some 1, some 1, some 0⟩, ⟨some 1, some 11, some 10⟩⟩,
        some ⟨⟨some 1, some 11, some 10⟩, ⟨some 1, some 22, some 21⟩⟩, []⟩] none

def tagsOnly : Options File :=
  ⟨.string "html", some (.ofText "<template></template>" none), .bool false⟩

def convertedTagged : Node :=
  .root none false [.element none ⟨.string "template", [], none⟩ []
    (some (.root (some ⟨some ⟨some 1, some 11, some 10⟩, some ⟨some 1, some 11, some 10⟩⟩)
      false []))]

theorem convert_tagged : (Run.fresh tagsOnly false).convert tagsOnly tagged =
    (.ok convertedTagged, Run.fresh tagsOnly false) := by
  rw [Run.convert_eq_convertNode]
  rfl

theorem convert_positioned_located_iff_tagged :
    (Run.fresh tagsOnly false).convert tagsOnly tagged =
        (.ok convertedTagged, Run.fresh tagsOnly false) ∧ tagsOnly.file.isSome ∧
      (((∃ n ∈ convertedTagged.preorder, n.position.isSome) →
          (Run.fresh tagsOnly false).located ∧ (tagged.IsRoot → convertedTagged.position.isSome)) ↔
        (∃ n ∈ tagged.visited, n.IsLocated) ∨ ¬∃ n ∈ tagged.survivors, n.SpansContent) :=
  ⟨convert_tagged, rfl, convert_positioned_located_iff convert_tagged rfl⟩

/-- A position anywhere in the result does not always mean that the conversion ends as located, or
that a root has a position. -/
theorem convert_positioned_not_located :
    ¬∀ (run run' : Run) (options : Options File) (tree : Source.Node) (node : Node),
      run.convert options tree = (.ok node, run') → options.file.isSome →
        (∃ n ∈ node.preorder, n.position.isSome) →
          run'.located ∧ (tree.IsRoot → node.position.isSome) := by
  intro hlocated
  have hpositioned : ∃ n ∈ convertedTagged.preorder, n.position.isSome := by
    simp [convertedTagged, Node.preorder, Node.preorderAll, Node.position]
  obtain ⟨hflag, -⟩ := hlocated _ _ _ _ _ convert_tagged rfl hpositioned
  simp [Run.fresh] at hflag

end MarkupTree

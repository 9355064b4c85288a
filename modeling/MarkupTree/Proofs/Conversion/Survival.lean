import MarkupTree.Proofs.Conversion.Rules
import MarkupTree.Proofs.Conversion.Steps

namespace MarkupTree

namespace Source.Node

/-- The children of documents, fragments and elements are kept, but a template with content of
its own keeps that instead. -/
def keepsChildren (node : Source.Node) : Bool :=
  match node.rule? with
  | some .root => true
  | some .element => !(node.isTemplate && node.content?.isSome)
  | _ => false

/-- The nodes of a parse tree that its conversion keeps. -/
def survivors (tree : Source.Node) : List Source.Node :=
  tree.preorder keepsChildren isTemplate

theorem survivors_eq (node : Source.Node) :
    node.survivors = node :: (node.parts keepsChildren isTemplate).flatMap survivors := by
  rw [survivors, preorder_eq]
  rfl

def lacksContent (node : Source.Node) : Prop := node.isTemplate ∧ node.content? = none

end Source.Node

/-- A node of a document tree is of the kind that the kind of its source asks for, and carries the
data of its source. -/
inductive StandsFor : Source.Node → Node → Prop
  | root {source : Source.Node} {p : Option Position} {quirksMode : Bool} {children : List Node}
      (hrule : source.rule? = some .root) : StandsFor source (.root p quirksMode children)
  | element {source : Source.Node} {p : Option Position} {tag : Tag} {children : List Node}
      {content : Option Node} (hrule : source.rule? = some .element) :
      StandsFor source (.element p tag children content)
  | doctype {source : Source.Node} {p : Option Position} (hrule : source.rule? = some .doctype) :
      StandsFor source (.doctype p)
  | text {source : Source.Node} {p : Option Position} {data : Value}
      (hrule : source.rule? = some .text) (hdata : source.payload.data = some data) :
      StandsFor source (.literal p .text data)
  | comment {source : Source.Node} {p : Option Position} {data : String}
      (hrule : source.rule? = some .comment) (hdata : source.payload.data = some (.string data))
      (hplain : ¬("[CDATA[".toList <+: data.toList ∧ "]]".toList <:+ data.toList)) :
      StandsFor source (.literal p .comment (.string data))
  | cdata {source : Source.Node} {p : Option Position} {value : String}
      (hrule : source.rule? = some .comment)
      (hdata : source.payload.data = some (.string ("[CDATA[" ++ value ++ "]]"))) :
      StandsFor source (.literal p .cdata (.string value))

/-- Two lists of nodes in which each source has its result at the same place. The only further
results are new roots, each right after the template that it is the content of. -/
inductive Aligned (R : Source.Node → Node → Prop) : List Source.Node → List Node → Prop
  | nil : Aligned R [] []
  | node {source : Source.Node} {result : Node} {sources : List Source.Node} {results : List Node}
      (h : R source result) (hcontent : ¬source.lacksContent)
      (rest : Aligned R sources results) : Aligned R (source :: sources) (result :: results)
  | template {source : Source.Node} {result : Node} {children : List Node}
      {sources : List Source.Node} {results : List Node}
      (h : R source result) (hcontent : source.lacksContent)
      (hroot : result.content? = some (.root none false children))
      (rest : Aligned R sources results) :
      Aligned R (source :: sources) (result :: .root none false children :: results)

theorem StandsFor.atPlaces {source : Source.Node} {result : Node} (h : StandsFor source result)
    (p : Option Position) (positions : Option TagPositions) :
    StandsFor source (result.atPlaces p positions) := by
  cases h with
  | root hrule => exact .root hrule
  | element hrule => exact .element hrule
  | doctype hrule => exact .doctype hrule
  | text hrule hdata => exact .text hrule hdata
  | comment hrule hdata hplain => exact .comment hrule hdata hplain
  | cdata hrule hdata => exact .cdata hrule hdata

namespace Aligned
variable {R : Source.Node → Node → Prop} {sources sources' : List Source.Node}
  {results results' : List Node}

theorem imp {R' : Source.Node → Node → Prop} (h : Aligned R sources results)
    (himp : ∀ s t, R s t → R' s t) : Aligned R' sources results := by
  induction h with
  | nil => exact .nil
  | node h hcontent _ ih => exact .node (himp _ _ h) hcontent ih
  | template h hcontent hroot _ ih => exact .template (himp _ _ h) hcontent hroot ih

theorem head {source : Source.Node} {result : Node}
    (h : Aligned R (source :: sources) (result :: results)) : R source result := by
  cases h with
  | node h _ _ => exact h
  | template h _ _ _ => exact h

theorem content_of_lacks {source : Source.Node} {result : Node}
    (h : Aligned R (source :: sources) (result :: results)) (hlacks : source.lacksContent) :
    ∃ children, result.content? = some (.root none false children) := by
  cases h with
  | node _ hcontent _ => exact absurd hlacks hcontent
  | template _ _ hroot _ => exact ⟨_, hroot⟩

theorem append (h : Aligned R sources results) (h' : Aligned R sources' results') :
    Aligned R (sources ++ sources') (results ++ results') := by
  induction h with
  | nil => exact h'
  | node h hcontent _ ih => exact .node h hcontent ih
  | template h hcontent hroot _ ih => exact .template h hcontent hroot ih

theorem flatMap (h : List.Forall₂ (fun s t => Aligned R s.survivors t.preorder) sources results) :
    Aligned R (sources.flatMap Source.Node.survivors) (results.flatMap Node.preorder) := by
  induction h with
  | nil => exact .nil
  | cons h _ ih =>
    rw [List.flatMap_cons, List.flatMap_cons]
    exact h.append ih

/-- A relation that places do not matter to lets the first result be moved. -/
theorem preorder_atPlaces (hplaces : ∀ s t p positions, R s t → R s (t.atPlaces p positions))
    {result : Node} (h : Aligned R sources result.preorder) (p : Option Position)
    (positions : Option TagPositions) : Aligned R sources (result.atPlaces p positions).preorder := by
  rw [Node.preorder_eq] at h ⊢
  rw [Node.parts_atPlaces]
  generalize result.parts.flatMap Node.preorder = results at h ⊢
  cases h with
  | node h hcontent rest => exact .node (hplaces _ _ p positions h) hcontent rest
  | template h hcontent hroot rest =>
    refine .template (hplaces _ _ p positions h) hcontent ?_ rest
    cases result <;> exact hroot

theorem comment_plain (h : Aligned StandsFor sources results) {p : Option Position} {v : Value}
    (hmem : .literal p .comment v ∈ results) :
    ∃ data, v = .string data ∧
      ¬("[CDATA[".toList <+: data.toList ∧ "]]".toList <:+ data.toList) := by
  induction h with
  | nil => cases hmem
  | node h _ _ ih =>
    rcases List.mem_cons.mp hmem with rfl | hmem
    · cases h with
      | comment _ _ hplain => exact ⟨_, rfl, hplain⟩
    · exact ih hmem
  | template h _ _ _ ih =>
    rcases List.mem_cons.mp hmem with rfl | hmem
    · cases h with
      | comment _ _ hplain => exact ⟨_, rfl, hplain⟩
    · rcases List.mem_cons.mp hmem with hroot | hmem
      · cases hroot
      · exact ih hmem

end Aligned

namespace Source.Node
variable {node : Source.Node}

theorem not_lacksContent (h : node.rule? ≠ some .element) : ¬node.lacksContent :=
  fun hlacks => h (rule?_isTemplate hlacks.1)

theorem survivors_of_root (h : node.rule? = some .root) :
    node.survivors = node :: node.children.flatMap survivors := by
  have ht : node.isTemplate = false := by simp [isTemplate, h]
  rw [survivors_eq, parts]
  simp [keepsChildren, h, ht]

theorem survivors_of_plain (h : node.rule? = some .element) (ht : node.isTemplate = false) :
    node.survivors = node :: node.children.flatMap survivors := by
  rw [survivors_eq, parts]
  simp [keepsChildren, h, ht]

theorem survivors_of_template (ht : node.isTemplate) :
    node.survivors = node :: (node.content?.elim node.children fun c => [c]).flatMap survivors := by
  rw [survivors_eq, parts]
  cases hc : node.content? <;> simp [keepsChildren, rule?_isTemplate ht, ht, hc]

theorem survivors_of_leaf (hroot : node.rule? ≠ some .root) (h : node.rule? ≠ some .element) :
    node.survivors = [node] := by
  have ht : node.isTemplate = false := by simp [isTemplate, h]
  have hk : node.keepsChildren = false := by
    unfold keepsChildren
    split <;> simp_all
  rw [survivors_eq, parts]
  simp [hk, ht]

end Source.Node

/-- Every result of a rule stands for the source. -/
theorem Rule.convert_standsFor {rule : Rule} {context : Context} {source : Source.Node}
    {children : List Node} {content : Option Node} {run run' : Run} {result : Node}
    (hrule : source.rule? = some rule)
    (h : rule.convert context source children content run = (.ok result, run')) :
    StandsFor source result := by
  cases rule with
  | root =>
    obtain ⟨p, rfl⟩ := convert_root_eq_ok h
    exact .root hrule
  | text =>
    obtain ⟨data, hdata, rfl⟩ := convert_text_eq_ok h
    exact .text hrule hdata
  | comment =>
    obtain ⟨data, hdata, ⟨hplain, rfl⟩ | ⟨inner, hinner, rfl⟩⟩ := convertComment_eq_ok h
    · exact .comment hrule hdata (sectionText?_eq_none_iff.mp hplain)
    · have hsection : data = "[CDATA[" ++ String.ofList inner ++ "]]" := by
        rw [← String.toList_inj, sectionText?_eq_some hinner]
        simp
      exact .cdata hrule (hsection ▸ hdata)
  | doctype =>
    simp only [convert, Prod.mk.injEq, Except.ok.injEq] at h
    rw [← h.1]
    exact .doctype hrule
  | element =>
    obtain ⟨tag, ⟨-, rfl⟩ | ⟨-, -, rfl⟩ | ⟨-, c, -, rfl⟩⟩ :=
      convertElement_shape hrule (convert_element_eq_ok h) <;> exact .element hrule

section
variable {R : Source.Node → Node → Prop} {context : Context} {source : Source.Node}
  {children : List Node} {content : Option Node} {run run' : Run} {result : Node}

def ContentAligned (R : Source.Node → Node → Prop) (source : Source.Node) (content : Option Node) :
    Prop :=
  (content = none ∧ (source.isTemplate → source.content? = none)) ∨
    ∃ s t, source.isTemplate ∧ source.content? = some s ∧ content = some t ∧
      Aligned R s.survivors t.preorder

theorem Aligned.leaf (hroot : source.rule? ≠ some .root) (helement : source.rule? ≠ some .element)
    (hresult : R source result) (hparts : result.parts = []) :
    Aligned R source.survivors result.preorder := by
  rw [Source.Node.survivors_of_leaf hroot helement, Node.preorder_eq, hparts]
  exact .node hresult (Source.Node.not_lacksContent helement) .nil

/-- An element has the children of its source, or its content, or the new root that takes the
children of a template. -/
theorem Rule.convertElement_aligned (hrule : source.rule? = some .element)
    (hresult : R source result)
    (hplaces : ∀ s t p positions, R s t → R s (t.atPlaces p positions))
    (hchildren : Aligned R (source.children.flatMap Source.Node.survivors)
      (children.flatMap Node.preorder))
    (hcontent : ContentAligned R source content)
    (h : convertElement context source children content = .ok result) :
    Aligned R source.survivors result.preorder := by
  rw [Node.preorder_eq]
  obtain ⟨tag, ⟨ht, rfl⟩ | ⟨ht, rfl, rfl⟩ | ⟨ht, c, rfl, rfl⟩⟩ := convertElement_shape hrule h
  · rw [Source.Node.survivors_of_plain hrule ht]
    refine .node hresult (by simp [Source.Node.lacksContent, ht]) ?_
    simpa using hchildren
  · obtain ⟨-, hnone⟩ | ⟨s, t, -, -, hst, -⟩ := hcontent
    · rw [Source.Node.survivors_of_template ht, hnone ht]
      -- The children come right after the new root, as they came after the template.
      simp only [Node.parts_element, Option.toList_some, List.nil_append, List.flatMap_cons,
        List.flatMap_nil, List.append_nil]
      rw [Node.preorder_eq]
      refine .template hresult ⟨ht, hnone ht⟩ rfl ?_
      simpa using hchildren
    · cases hst
  · obtain ⟨hc, -⟩ | ⟨s, t, -, hs, hst, haligned⟩ := hcontent
    · cases hc
    · cases hst
      rw [Source.Node.survivors_of_template ht, hs]
      refine .node hresult (by simp [Source.Node.lacksContent, hs]) ?_
      have hmoved := haligned.preorder_atPlaces hplaces ((if context.text.isSome then
        contentPosition? source.location else none).or c.position) (c.tag?.bind Tag.positions)
      simpa [Node.withPosition_eq] using hmoved

theorem Rule.convert_aligned {rule : Rule} (hrule : source.rule? = some rule)
    (hresult : R source result)
    (hplaces : ∀ s t p positions, R s t → R s (t.atPlaces p positions))
    (hchildren : Aligned R (source.children.flatMap Source.Node.survivors)
      (children.flatMap Node.preorder))
    (hcontent : ContentAligned R source content)
    (h : rule.convert context source children content run = (.ok result, run')) :
    Aligned R source.survivors result.preorder := by
  cases rule with
  | root =>
    obtain ⟨p, rfl⟩ := convert_root_eq_ok h
    rw [Source.Node.survivors_of_root hrule, Node.preorder_eq]
    refine .node hresult (Source.Node.not_lacksContent (by simp [hrule])) ?_
    simpa using hchildren
  | element =>
    exact convertElement_aligned hrule hresult hplaces hchildren hcontent (convert_element_eq_ok h)
  | text | comment | doctype =>
    refine .leaf (by simp [hrule]) (by simp [hrule]) hresult ?_
    rcases convert_leaf_eq_ok h nofun nofun with ⟨kind, value, rfl⟩ | rfl
    · rfl
    · rfl

end

/-- A relation that every rule establishes, and that places do not matter to, relates every
surviving node to its result. -/
theorem convertNode_aligned {R : Source.Node → Node → Prop}
    (hplaces : ∀ s t p positions, R s t → R s (t.atPlaces p positions))
    (hrules : ∀ (rule : Rule) context s children content run t run', s.rule? = some rule →
      rule.convert (Context.below context s) s children content run = (.ok t, run') → R s t)
    (source : Source.Node) : ∀ context run result run',
      convertNode context source run = (.ok result, run') →
        Aligned R source.survivors result.preorder := by
  induction source with
  | mk form payload children content ihc iht =>
    intro context run result run' h
    obtain ⟨admission, results, converted, run₁, run₂, ha, hchildren, hcontent, hcomplete⟩ :=
      convertNode_eq_ok_iff.mp h
    obtain ⟨made, run₃, p, positions, hmade, rfl⟩ := Admission.complete_eq_ok hcomplete
    obtain ⟨hrule, hcontext, -⟩ := Admission.of_eq_ok ha
    rw [hcontext] at hmade
    have hparts : Aligned R (children.flatMap Source.Node.survivors)
        (results.flatMap Node.preorder) :=
      .flatMap (convertNodes_forall₂ hchildren fun s hs run t run' => ihc s hs _ run t run')
    -- The rule makes the result at no place yet, and placing it moves the first node alone.
    refine (Rule.convert_aligned hrule (hrules _ _ _ _ _ _ _ _ hrule hmade) hplaces hparts ?_
      hmade).preorder_atPlaces hplaces p positions
    exact convertContent_from hcontent fun s t _ hs hst => iht s hs _ _ _ _ hst

theorem convertNode_standsFor {context : Context} {source : Source.Node} {run run' : Run}
    {result : Node} (h : convertNode context source run = (.ok result, run')) :
    Aligned StandsFor source.survivors result.preorder :=
  convertNode_aligned (fun _ _ p positions h => h.atPlaces p positions)
    (fun _ _ _ _ _ _ _ _ hrule h => Rule.convert_standsFor hrule h) source context run result run' h

theorem standsFor_of_convertNode {context : Context} {source : Source.Node} {run run' : Run}
    {result : Node} (h : convertNode context source run = (.ok result, run')) :
    StandsFor source result := by
  have haligned := convertNode_standsFor h
  rw [Source.Node.survivors_eq, Node.preorder_eq] at haligned
  exact haligned.head

/-- A conversion keeps the surviving nodes and no others, in their order, each with its kind and
its data; only templates without content of their own get a root besides. No result is a comment
with the data of a CDATA section. -/
theorem convert_keeps_survivors {run run' : Run} {options : Options File} {tree : Source.Node}
    {node : Node} (h : run.convert options tree = (.ok node, run')) :
    Aligned StandsFor tree.survivors node.preorder ∧ ∀ p v, .literal p .comment v ∈ node.preorder →
      ∃ data, v = .string data ∧
        ¬("[CDATA[".toList <+: data.toList ∧ "]]".toList <:+ data.toList) := by
  obtain ⟨run₁, run₂, hnode⟩ := Run.convert_eq_ok h
  have haligned := convertNode_standsFor hnode
  exact ⟨haligned, fun p v hmem => haligned.comment_plain hmem⟩

def Source.Node.bare (kind : String) (data tagName : Option String) (children : List Source.Node)
    (content : Option Source.Node) : Source.Node :=
  .mk (.foreign "Node") ⟨.string kind, none, data.map .string, tagName.map .string, .null, .null, []⟩
    children content

def templates : Source.Node :=
  .bare "fragment" none none
    [.bare "element" none "TEMPLATE" [.bare "text" "a" none [] none] none,
      .bare "comment" "[CDATA[b]]" none [.bare "text" "x" none [] none] none,
      .bare "element" none "template" [.bare "text" "y" none [] none]
        (some (.bare "comment" "c" none [] none))] none

def convertedTemplates : Node :=
  .root none false
    [.element none ⟨.string "template", [], none⟩ []
        (some (.root none false [.literal none .text (.string "a")])),
      .literal none .cdata (.string "b"),
      .element none ⟨.string "template", [], none⟩ []
        (some (.literal none .comment (.string "c")))]

theorem convert_templates :
    (Run.fresh Options.standard false).convert Options.standard templates =
      (.ok convertedTemplates, Run.fresh Options.standard false) := by
  rw [Run.convert_eq_convertNode]
  rfl

theorem convert_keeps_survivors_templates :
    (Run.fresh Options.standard false).convert Options.standard templates =
        (.ok convertedTemplates, Run.fresh Options.standard false) ∧
      Aligned StandsFor templates.survivors convertedTemplates.preorder ∧
      ∀ p v, .literal p .comment v ∈ convertedTemplates.preorder → ∃ data, v = .string data ∧
        ¬("[CDATA[".toList <+: data.toList ∧ "]]".toList <:+ data.toList) :=
  ⟨convert_templates, convert_keeps_survivors convert_templates⟩

end MarkupTree

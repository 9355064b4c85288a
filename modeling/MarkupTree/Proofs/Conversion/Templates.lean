import MarkupTree.Proofs.Conversion.Arrival

namespace MarkupTree

namespace Node

def isTemplate : Node → Bool
  | element _ ⟨.string name, _, _⟩ _ _ => name == "template"
  | _ => false

/-- Templates have content in place of children, and no other node has content. -/
structure WellFormed (node : Node) : Prop where
  content : node.content?.isSome = node.isTemplate
  children : node.isTemplate → node.children = []

theorem isTemplate_of_tag? {node : Node} {name : String} {attributes : Entries String Value}
    {positions : Option TagPositions}
    (h : node.tag? = some ⟨.string name, attributes, positions⟩) :
    node.isTemplate = (name == "template") := by
  cases node with
  | element _ _ _ _ =>
    cases h
    rfl
  | _ => cases h

theorem isTemplate_of_tag?_none {node : Node} (h : node.tag? = none) : node.isTemplate = false := by
  cases node with
  | element _ _ _ _ => cases h
  | _ => rfl

@[simp] theorem isTemplate_atPlaces (p : Option Position) (positions : Option TagPositions)
    (node : Node) : (node.atPlaces p positions).isTemplate = node.isTemplate := by
  cases node with
  | element _ tag _ _ =>
    obtain ⟨name, _, _⟩ := tag
    cases name <;> rfl
  | _ => rfl

namespace WellFormed

theorem of_tag?_none {node : Node} (h : node.tag? = none) : node.WellFormed := by
  have htemplate := isTemplate_of_tag?_none h
  constructor
  · rw [htemplate]
    cases node with
    | element _ _ _ _ => cases h
    | _ => rfl
  · intro hno
    rw [htemplate] at hno
    cases hno

theorem atPlaces {node : Node} (h : node.WellFormed) (p : Option Position)
    (positions : Option TagPositions) : (node.atPlaces p positions).WellFormed := by
  constructor
  · rw [content?_atPlaces, isTemplate_atPlaces, h.content]
  · intro htemplate
    rw [isTemplate_atPlaces] at htemplate
    rw [children_atPlaces, h.children htemplate]

end WellFormed

end Node

section
variable {context : Context} {source : Source.Node} {children : List Node}
  {content : Option Node} {run run' : Run} {result : Node}

/-- The tag of the result and the tag of the source say alike whether an element is a template:
no spelling of another name is one of `template`, and none of `template` is another one. -/
theorem Rule.convertElement_isTemplate (hrule : source.rule? = some .element)
    (h : convertElement context source children content = .ok result) :
    result.isTemplate = source.isTemplate := by
  obtain ⟨_, name, _, -, hname, -, htag⟩ := convertElement_tag h
  rw [Node.isTemplate_of_tag? htag, Bool.eq_iff_iff, beq_iff_eq, Space.elementName_eq_template_iff,
    Source.Node.isTemplate_iff hrule hname]

theorem Rule.convert_isTemplate {rule : Rule} (hrule : source.rule? = some rule)
    (h : rule.convert context source children content run = (.ok result, run')) :
    result.isTemplate = source.isTemplate := by
  by_cases helement : rule = .element
  · subst helement
    exact convertElement_isTemplate hrule (convert_element_eq_ok h)
  · have hsource : source.isTemplate = false := by
      simpa [Source.Node.isTemplate, hrule] using fun heq => absurd heq helement
    rw [Node.isTemplate_of_tag?_none (convert_tag?_eq_none hrule helement h), hsource]

theorem Rule.convert_wellFormed {rule : Rule} (hrule : source.rule? = some rule)
    (h : rule.convert context source children content run = (.ok result, run')) :
    result.WellFormed := by
  by_cases helement : rule = .element
  · subst helement
    have hmade := convert_element_eq_ok h
    have htemplate := convertElement_isTemplate hrule hmade
    obtain ⟨tag, ⟨hplain, rfl⟩ | ⟨ht, -, rfl⟩ | ⟨ht, c, -, rfl⟩⟩ := convertElement_shape hrule hmade
    · rw [hplain] at htemplate
      exact ⟨htemplate.symm, fun hno => by rw [htemplate] at hno; cases hno⟩
    · exact ⟨(htemplate.trans ht).symm, fun _ => rfl⟩
    · exact ⟨(htemplate.trans ht).symm, fun _ => rfl⟩
  · exact .of_tag?_none (convert_tag?_eq_none hrule helement h)

theorem convertNode_isTemplate (h : convertNode context source run = (.ok result, run')) :
    result.isTemplate = source.isTemplate := by
  obtain ⟨admission, _, _, _, _, ha, -, -, hcomplete⟩ := convertNode_eq_ok_iff.mp h
  obtain ⟨made, _, p, positions, hmade, rfl⟩ := Admission.complete_eq_ok hcomplete
  rw [Node.isTemplate_atPlaces, Rule.convert_isTemplate (Admission.of_eq_ok ha).1 hmade]

theorem Aligned.forall_results {Q : Node → Prop} {sources : List Source.Node}
    {results : List Node} (h : Aligned (fun _ t => Q t) sources results)
    (hroot : ∀ children, Q (.root none false children)) : ∀ t ∈ results, Q t := by
  induction h with
  | nil => exact nofun
  | node h _ _ ih => exact List.forall_mem_cons.mpr ⟨h, ih⟩
  | template h _ _ _ ih =>
    exact List.forall_mem_cons.mpr ⟨h, List.forall_mem_cons.mpr ⟨hroot _, ih⟩⟩

theorem convertNode_wellFormed (h : convertNode context source run = (.ok result, run')) :
    ∀ n ∈ result.preorder, n.WellFormed := by
  have haligned := convertNode_aligned (R := fun _ t => t.WellFormed)
    (fun _ _ p positions h => h.atPlaces p positions)
    (fun _ _ _ _ _ _ _ _ hrule h => Rule.convert_wellFormed hrule h) source context run result
    run' h
  exact haligned.forall_results fun _ => .of_tag?_none rfl

/-- A template without content of its own takes its children into a new root. -/
theorem convertNode_content_of_none (htemplate : source.isTemplate) (hnone : source.content? = none)
    (h : convertNode context source run = (.ok result, run')) :
    ∃ children, result.content? = some (.root none false children) := by
  have haligned := convertNode_standsFor h
  rw [Source.Node.survivors_eq, Node.preorder_eq] at haligned
  exact haligned.content_of_lacks ⟨htemplate, hnone⟩

/-- The content of a template is a root unless the content that its source gives is none. -/
theorem convertNode_content_root (htemplate : source.isTemplate)
    (hroot : ∀ s ∈ source.content?, s.IsRoot)
    (h : convertNode context source run = (.ok result, run')) :
    ∃ p quirksMode children, result.content? = some (.root p quirksMode children) := by
  cases hs : source.content? with
  | none =>
    obtain ⟨children, hcontent⟩ := convertNode_content_of_none htemplate hs h
    exact ⟨none, false, children, hcontent⟩
  | some s =>
    obtain ⟨c, _, _, hc, -, hcontent⟩ := convertNode_content htemplate hs h
    have hrule := (s.rule?_eq_root_iff).mpr (hroot s hs)
    have hstands := standsFor_of_convertNode hc
    cases hstands with
    | root _ => exact ⟨_, _, _, hcontent⟩
    | _ => simp_all

end

/-- What is decided when a node is entered is what its result asks for: the content of the source
is to be converted exactly if the result is a template, and the result then holds it. -/
structure Admission.AgreesWith (a : Admission) (source : Source.Node) (result : Node) : Prop where
  content : a.content = if result.isTemplate then source.content? else none
  attached : ∀ s ∈ a.content, ∃ c p run run', convertNode a.context s run = (.ok c, run') ∧
    result.content? = some (c.withPosition p)

theorem Admission.agreesWith {context : Context} {source : Source.Node} {a : Admission}
    {run run' : Run} {result : Node} (ha : Admission.of context source = .ok a)
    (h : convertNode context source run = (.ok result, run')) : a.AgreesWith source result := by
  obtain ⟨-, hcontext, hcontent⟩ := of_eq_ok ha
  constructor
  · rw [convertNode_isTemplate h, hcontent]
  · intro s hs
    rw [hcontent] at hs
    split at hs
    · next htemplate =>
      simp only [hcontext, convertNode_below]
      obtain ⟨c, run₁, run₁', hc, -, hheld⟩ := convertNode_content htemplate hs h
      exact ⟨c, _, run₁, run₁', hc, hheld⟩
    · cases hs

/-- In every converted tree an element has content exactly if it is a template, and then it has no
children. The content is a root where the source gives none, a document or a fragment. At every
node that a conversion enters, whether its content is converted and whether it is attached are
decided alike. -/
theorem convert_templates_wellFormed {run run' : Run} {options : Options File} {tree : Source.Node}
    {node : Node} (h : run.convert options tree = (.ok node, run')) :
    (∀ n ∈ node.preorder, n.WellFormed) ∧
      (∀ path source, tree.keptAt? path = some source → source.isTemplate →
        (∀ s ∈ source.content?, s.IsRoot) → ∃ result p quirksMode children,
          node.at? path = some result ∧ result.content? = some (.root p quirksMode children)) ∧
      ∀ context source a run result run', Admission.of context source = .ok a →
        convertNode context source run = (.ok result, run') → a.AgreesWith source result := by
  obtain ⟨run₁, run₂, hnode⟩ := Run.convert_eq_ok h
  refine ⟨convertNode_wellFormed hnode, ?_, fun _ _ _ _ _ _ => Admission.agreesWith⟩
  intro path source hsource htemplate hroot
  obtain ⟨result, p, _, _, hresult, hat, -⟩ := convertNode_at hnode hsource
  obtain ⟨q, quirksMode, children, hcontent⟩ := convertNode_content_root htemplate hroot hresult
  refine ⟨result.withPosition p, q, quirksMode, children, hat, ?_⟩
  rw [Node.withPosition_eq, Node.content?_atPlaces, hcontent]

theorem convert_templates_wellFormed_templates :
    (Run.fresh Options.standard false).convert Options.standard templates =
        (.ok convertedTemplates, Run.fresh Options.standard false) ∧
      (∀ n ∈ convertedTemplates.preorder, n.WellFormed) ∧
      ∃ result p quirksMode children, convertedTemplates.at? [.child 0] = some result ∧
        result.content? = some (.root p quirksMode children) := by
  obtain ⟨hformed, hroot, -⟩ := convert_templates_wellFormed convert_templates
  exact ⟨convert_templates, hformed, hroot [.child 0] _ rfl rfl nofun⟩

end MarkupTree

import MarkupTree.Proofs.Conversion.Repair

namespace MarkupTree

namespace Source.Node

/-- A template that its parser locates, without an end tag, that has children in place of content of
its own. -/
structure UnclosedTemplate (node : Source.Node) : Prop where
  template : node.isTemplate
  filled : node.children ≠ []
  contentless : node.content? = none
  located : node.IsLocated
  endless : node.hasEndTag = false

theorem UnclosedTemplate.keptAt?_toLast {node : Source.Node} (h : node.UnclosedTemplate) :
    ∃ last, node.keptAt? [node.toLast] = some last := by
  have hkeeps : node.keepsChildren := by
    simp [keepsChildren, rule?_isTemplate h.template, h.contentless]
  exact ⟨_, Source.Node.keptAt?_toLast hkeeps (List.getLast?_eq_some_getLast h.filled)⟩

end Source.Node

theorem repairEnd_nil (endTag : Option Span) : repairEnd endTag [] = id := by
  funext p
  cases endTag <;> rfl

section
variable {context : Context} {source : Source.Node} {run run' : Run} {result : Node}

theorem convertNode_template_children (htemplate : source.isTemplate)
    (h : convertNode context source run = (.ok result, run')) : result.children = [] := by
  have hself : result ∈ result.preorder := by
    rw [Node.preorder_eq]
    exact List.mem_cons_self
  have hresult : result.isTemplate := (convertNode_isTemplate h).trans htemplate
  exact (convertNode_wellFormed h result hself).children hresult

/-- No child is left in a template by the time that it is placed, so its location alone counts. -/
theorem convertNode_template_position (htext : context.text.isSome) (htemplate : source.isTemplate)
    (h : convertNode context source run = (.ok result, run')) :
    result.position = source.place? := by
  rw [convertNode_element_position htext (Source.Node.rule?_isTemplate htemplate) h,
    convertNode_template_children htemplate h, repairEnd_nil, Option.map_id, id]

end

/-- Converted with a file, an unclosed template with children stands where its location says, or
where the tags around it say if it is content itself. So it ends where its last child does exactly
if its parser reports that end for the template, or for what lies between these tags. -/
theorem convert_unclosed_template_iff {run run' : Run} {options : Options File}
    {tree e : Source.Node} {path : List Turn} {node : Node}
    (h : run.convert options tree = (.ok node, run')) (hfile : options.file.isSome)
    (he : tree.keptAt? path = some e) (hunclosed : e.UnclosedTemplate) :
    ∃ r last, node.at? path = some r ∧ node.at? (path ++ [e.toLast]) = some last ∧
      r.position = (tree.contentSpan? path).or e.place? ∧
      ∀ q, last.position.bind Position.finish = some q →
        (r.position.bind Position.finish = last.position.bind Position.finish ↔
          (∃ p, tree.contentSpan? path = some p ∧ p.finish = some q) ∨
            tree.contentSpan? path = none ∧
              ∃ l, e.location = some l ∧ l.finish.Known ∧ l.finish = q) := by
  obtain ⟨log, log', run₂, hnode, rfl⟩ := Run.convert_steps h
  have htext : (Context.ofOptions options).text.isSome := by
    simpa using hfile
  obtain ⟨s, hs⟩ := hunclosed.keptAt?_toLast
  have hlast : tree.keptAt? (path ++ [e.toLast]) = some s := by
    rw [Source.Node.keptAt?_append, he, Option.bind_some, hs]
  obtain ⟨result, r, _, _, hresult, -, hat, hposition⟩ := convertNode_position_at htext hnode he
  rw [convertNode_template_position htext hunclosed.template hresult] at hposition
  obtain ⟨_, last, _, _, -, -, hatLast, -⟩ := convertNode_position_at htext hnode hlast
  refine ⟨r, last, hat, hatLast, hposition, fun q hq => ?_⟩
  rw [hposition, hq]
  cases tree.contentSpan? path with
  | some p => simp
  | none => simp [e.finish_place?_eq_some_iff]

def openTemplate : Source.Node :=
  (Source.Node.bare "element" none "template"
    [(Source.Node.bare "text" "a" none [] none).spanning 10 11 none] none).atLocation
    ⟨onFirstLine 0 10, some (onFirstLine 0 10), none, []⟩

def openTemplateFile : Options File :=
  ⟨.string "html", some (.ofText "<template>a" none), .bool false⟩

def convertedOpenTemplate : Node :=
  .element (onFirstLine 0 10).position? ⟨.string "template", [], none⟩ []
    (some (.root none false [.literal (onFirstLine 10 11).position? .text (.string "a")]))

theorem convert_openTemplate :
    ∃ run', (Run.fresh openTemplateFile false).convert openTemplateFile openTemplate =
      (.ok convertedOpenTemplate, run') := by
  refine ⟨⟨true, none, [], none⟩, ?_⟩
  rw [Run.convert_eq_convertNode]
  rfl

theorem unclosedTemplate_openTemplate : openTemplate.UnclosedTemplate :=
  ⟨rfl, List.cons_ne_nil _ _, rfl, by decide, rfl⟩

theorem convert_unclosed_template_iff_openTemplate :
    (∃ run', (Run.fresh openTemplateFile false).convert openTemplateFile openTemplate =
        (.ok convertedOpenTemplate, run')) ∧ openTemplateFile.file.isSome ∧
      openTemplate.keptAt? [] = some openTemplate ∧ openTemplate.UnclosedTemplate ∧
      convertedOpenTemplate.position = openTemplate.place? ∧
      ∃ last, convertedOpenTemplate.at? [.child 0] = some last ∧
        last.position.bind Position.finish = some ⟨some 1, some 12, some 11⟩ ∧
        convertedOpenTemplate.position.bind Position.finish ≠ some ⟨some 1, some 12, some 11⟩ := by
  obtain ⟨run', h⟩ := convert_openTemplate
  have hself : openTemplate.keptAt? [] = some openTemplate := rfl
  obtain ⟨r, last, hat, hatLast, hposition, hiff⟩ :=
    convert_unclosed_template_iff h rfl hself unclosedTemplate_openTemplate
  cases hat
  cases hatLast
  refine ⟨⟨run', h⟩, rfl, hself, unclosedTemplate_openTemplate, hposition, _, rfl, rfl,
    mt (hiff _ rfl).mp ?_⟩
  rintro (⟨p, hp, -⟩ | ⟨-, l, hl, -, hend⟩)
  · cases hp
  · cases hl
    exact absurd hend (by decide)

/-- An unclosed template does not always end where its last child does. -/
theorem convert_not_repairs_template :
    ¬∀ (run run' : Run) (options : Options File) (tree e : Source.Node) (path : List Turn)
      (node : Node), run.convert options tree = (.ok node, run') → options.file.isSome →
        tree.keptAt? path = some e → e.UnclosedTemplate →
          ∀ q, node.endAt? (path ++ [e.toLast]) = some q → node.endAt? path = some q := by
  intro hends
  obtain ⟨run', h⟩ := convert_openTemplate
  have hend := hends _ _ _ _ openTemplate [] _ h rfl rfl unclosedTemplate_openTemplate
    ⟨some 1, some 12, some 11⟩ rfl
  exact absurd hend (by decide)

end MarkupTree

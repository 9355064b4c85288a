import MarkupTree.Proofs.Conversion.Locating
import MarkupTree.Proofs.Conversion.Simulation
import MarkupTree.Proofs.Conversion.Survival

namespace MarkupTree

section
variable {context : Context} {source : Source.Node} {run run' : Run}

theorem Rule.convert_inSpace {rule : Rule} (h : rule ≠ .element) (context : Context) (space : Space)
    (source : Source.Node) (children : List Node) (content : Option Node) (run : Run) :
    rule.convert (context.inSpace space) source children content run =
      rule.convert context source children content run := by
  cases rule with
  | element => exact absurd rfl h
  | _ => rfl

theorem locate_inSpace {node : Node} (h : node.tag? = none) (context : Context) (space : Space)
    (location : Option Source.Location) (run : Run) :
    locate (context.inSpace space) location node run = locate context location node run := by
  cases node with
  | element _ _ _ _ => cases h
  | _ => rfl

theorem Rule.convert_tag?_eq_none {rule : Rule} {children : List Node} {content : Option Node}
    {result : Node} (hrule : source.rule? = some rule) (hne : rule ≠ .element)
    (h : rule.convert context source children content run = (.ok result, run')) :
    result.tag? = none := by
  cases convert_standsFor hrule h with
  | element helement => exact absurd (Option.some.inj (hrule.symm.trans helement)) hne
  | _ => rfl

theorem Admission.complete_inSpace {rule : Rule} (hrule : source.rule? = some rule)
    (hne : rule ≠ .element) (space : Space) (part : Option Source.Node) (children : List Node)
    (content : Option Node) (run : Run) :
    Admission.complete ⟨rule, context.inSpace space, part⟩ source children content run =
      Admission.complete ⟨rule, context, part⟩ source children content run := by
  simp only [complete, Rule.convert_inSpace hne]
  split
  · rfl
  · next made run₁ hmade =>
    rw [locate_inSpace (Rule.convert_tag?_eq_none hrule hne hmade)]

theorem convertNodes_congr {context' : Context} {sources : List Source.Node}
    (h : ∀ s ∈ sources, ∀ run, convertNode context s run = convertNode context' s run) (run : Run) :
    convertNodes context sources run = convertNodes context' sources run := by
  induction sources generalizing run with
  | nil => rfl
  | cons s rest ih =>
    have hrest := ih fun s hs => h s (List.mem_cons_of_mem _ hs)
    simp only [convertNodes_cons, h s List.mem_cons_self, hrest]

theorem convertContent_congr {context' : Context} {content : Option Source.Node}
    (h : ∀ s ∈ content, ∀ run, convertNode context s run = convertNode context' s run) (run : Run) :
    convertContent context content run = convertContent context' content run := by
  cases content with
  | none => rfl
  | some s => rw [convertContent_some, convertContent_some, h s rfl]

/-- An element takes the space of its own namespace, and other nodes hand down the one they get. -/
theorem Context.below_inSpace (context : Context) (space : Space) (source : Source.Node) :
    (context.inSpace space).below source =
      if source.rule? = some .element then context.below source
      else (context.below source).inSpace space := by
  unfold Context.below
  split <;> rfl

/-- What a node becomes does not depend on a space that it only hands down. -/
theorem simulation_inSpace :
    Simulation (fun context context' => ∃ space, context' = context.inSpace space) Eq id where
  below source h := by
    obtain ⟨space, rfl⟩ := h
    rw [Context.below_inSpace]
    split
    · exact ⟨_, rfl⟩
    · exact ⟨space, rfl⟩
  refuse failure h hrun := by
    obtain ⟨space, rfl⟩ := h
    subst hrun
    cases failure <;> exact ⟨rfl, rfl⟩
  complete rule part source children content h hrun hrule := by
    obtain ⟨space, rfl⟩ := h
    subst hrun
    rw [List.map_id, Option.map_id_apply, Context.below_inSpace, hrule]
    by_cases helement : some rule = some .element
    · rw [if_pos helement]
      exact .refl _
    · rw [if_neg helement, Admission.complete_inSpace hrule (mt (congrArg some) helement)]
      exact .refl _

/-- The space that a tree is converted in has no part in the outcome. -/
theorem convertNode_inSpace (source : Source.Node) (context : Context) (space : Space) (run : Run) :
    convertNode (context.inSpace space) source run = convertNode context source run := by
  have hrelated : ∃ s, context.inSpace space = context.inSpace s := ⟨space, rfl⟩
  exact (simulation_inSpace.convertNode_maps source hrelated (Eq.refl run)).eq

theorem convertNode_below (context : Context) (source s : Source.Node) (run : Run) :
    convertNode (context.below source) s run = convertNode context s run := by
  rw [Context.below]
  split
  · exact convertNode_inSpace s context source.space run
  · rfl

/-- So the parts of a node are converted as in the context of the node itself. -/
theorem convertNode_eq_ok_of_parts_iff {result : Node} :
    convertNode context source run = (.ok result, run') ↔
      ∃ admission children content run₁ run₂,
        Admission.of context source = .ok admission ∧
        convertNodes context source.children run = (.ok children, run₁) ∧
        convertContent context (if source.isTemplate then source.content? else none) run₁ =
          (.ok content, run₂) ∧
        admission.complete source children content run₂ = (.ok result, run') := by
  have hchildren := convertNodes_congr fun s (_ : s ∈ source.children) run =>
    convertNode_below context source s run
  have hcontent := convertContent_congr
    fun s (_ : s ∈ if source.isTemplate then source.content? else none) run =>
      convertNode_below context source s run
  simp only [convertNode_eq_ok_iff, hchildren, hcontent]

end

end MarkupTree

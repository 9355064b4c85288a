import MarkupTree.Proofs.Conversion.Located

namespace MarkupTree

@[simp] theorem Node.tag?_withPosition (p : Option Position) (node : Node) :
    (node.withPosition p).tag? = node.tag? := by
  cases node <;> rfl

/-- Placing a node sets the places of its tag where tags are placed, and leaves the rest of it. -/
theorem Node.tag?_place (space : Space) (verbose : Bool) (location : Option Source.Location)
    (node : Node) :
    (node.place space verbose location).2.tag? = node.tag?.map fun tag =>
      if verbose then { tag with positions := some (tagPositions space location) } else tag := by
  cases node <;> rfl

theorem tag?_locate (context : Context) (location : Option Source.Location) (node : Node)
    (run : Run) :
    (locate context location node run).1.tag? = node.tag?.map fun tag =>
      if context.text.isSome && context.verbose.truthy && location.isSome then
        { tag with positions := some (tagPositions context.space location) }
      else tag := by
  by_cases hfile : location.isSome && context.text.isSome
  · obtain ⟨hlocation, htext⟩ := Bool.and_eq_true_iff.mp hfile
    rw [locate_of_file _ _ _ _ hfile, Node.tag?_withPosition, Node.tag?_place, hlocation, htext,
      Bool.true_and, Bool.and_true]
  · have hnone : ¬(context.text.isSome && context.verbose.truthy && location.isSome) := by
      simp only [Bool.and_eq_true, not_and] at hfile ⊢
      intro h hlocation
      exact hfile hlocation h.1
    rw [locate_of_no_file _ _ _ _ hfile]
    simp only [if_neg hnone, Option.map_id']

/-- The tag is what the rules of a space make of an element: the spelling of its name and of its
attributes and, where tags are placed, the properties that their places are kept under. -/
def Source.Node.GivesTag (source : Source.Node) (space : Space) (placed : Bool) (tag : Tag) :
    Prop :=
  ∃ name attributes spelled, source.payload.tagName = some (.string name) ∧
    readAttributes [] source.payload.attributes = .ok attributes ∧
    Node.spellAttributes space [] attributes = .ok spelled ∧
    tag = ⟨.string (space.elementName name), spelled,
      if placed && source.location.isSome then some (tagPositions space source.location) else none⟩

/-- The tag of an element is made by the rules of its own space. -/
theorem convertNode_givesTag {context : Context} {source : Source.Node} {run run' : Run}
    {result : Node} (helement : source.rule? = some .element)
    (h : convertNode context source run = (.ok result, run')) :
    ∃ tag, result.tag? = some tag ∧
      source.GivesTag source.space (context.text.isSome && context.verbose.truthy) tag := by
  obtain ⟨rule, children, content, made, run₂, run₃, hrule, -, hmade, hlocate⟩ :=
    convertNode_made h
  obtain rfl := Option.some.inj (hrule.symm.trans helement)
  obtain ⟨attributes, name, spelled, hread, hname, hspell, htag⟩ :=
    Rule.convertElement_tag (Rule.convert_element_eq_ok hmade)
  have hplaced := tag?_locate (context.below source) source.location made run₃
  rw [hlocate, htag, Option.map_some, Context.space_below helement, Context.text_below,
    Context.verbose_below] at hplaced
  rw [Context.space_below helement] at hspell
  refine ⟨_, hplaced, name, attributes, spelled, hname, hread, hspell, ?_⟩
  split <;> rfl

end MarkupTree

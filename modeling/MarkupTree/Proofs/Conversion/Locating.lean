import MarkupTree.Proofs.Conversion.Rules
import MarkupTree.Proofs.Conversion.Steps
import MarkupTree.Proofs.LineIndex.Search

namespace MarkupTree

namespace Source.Node

def place? (node : Source.Node) : Option Position := node.location.bind fun l => l.toSpan.position?

/-- The node has a location with a known end. -/
def IsLocated (node : Source.Node) : Prop :=
  ∃ l, node.location = some l ∧ (l.start.Known ∨ l.finish.Known)

theorem place?_isSome_iff (node : Source.Node) : node.place?.isSome ↔ node.IsLocated := by
  unfold place? IsLocated
  cases node.location with
  | none => simp
  | some l => simp [Span.position?_isSome_iff]

theorem finish_place?_eq_some_iff (node : Source.Node) {q : Point} :
    node.place?.bind Position.finish = some q ↔
      ∃ l, node.location = some l ∧ l.finish.Known ∧ l.finish = q := by
  unfold place?
  cases node.location with
  | none => simp
  | some l => simp [Span.finish_position?, Point.known?_eq_some_iff]

instance (node : Source.Node) : Decidable node.IsLocated :=
  decidable_of_iff _ node.place?_isSome_iff

def atLocation (l : Source.Location) : Source.Node → Source.Node
  | mk form payload children content => mk form { payload with location := some l } children content

end Source.Node

section
variable (context : Context) (location : Option Source.Location) (node : Node) (run : Run)

theorem locate_of_file (h : location.isSome && context.text.isSome) :
    locate context location node run =
      let placed := node.place context.space context.verbose.truthy location
      (placed.2.withPosition (placed.1.or placed.2.position),
        { run with located := run.located || placed.1.isSome }) := by
  rw [locate, if_pos h]
  split
  · next made hmade => simp [hmade]
  · next p made hp hmade =>
    cases p with
    | none => exact (hp rfl).elim
    | some p => simp [hmade]

theorem locate_of_no_file (h : ¬(location.isSome && context.text.isSome)) :
    locate context location node run = (node, run) := by
  rw [locate, if_neg h]

theorem locate_fst_run (run' : Run) :
    (locate context location node run).1 = (locate context location node run').1 := by
  by_cases h : location.isSome && context.text.isSome
  · rw [locate_of_file _ _ _ _ h, locate_of_file _ _ _ _ h]
  · rw [locate_of_no_file _ _ _ _ h, locate_of_no_file _ _ _ _ h]

/-- Placing an element may change the end of its position, but not whether it has one. -/
theorem Node.place_isSome (space : Space) (verbose : Bool) :
    (node.place space verbose location).1.isSome =
      (location.bind fun l => l.toSpan.position?).isSome := by
  cases node with
  | element _ _ _ _ => exact Option.isSome_map
  | _ => rfl

theorem Node.position_place (space : Space) (verbose : Bool) :
    (node.place space verbose location).2.position = node.position := by
  obtain ⟨positions, h⟩ := place_eq space verbose location node
  rw [h]
  cases node <;> rfl

end

section
variable (context : Context) (source : Source.Node) (node : Node) (run : Run)

theorem locate_snd :
    (locate context source.location node run).2 =
      { run with located := run.located || context.text.isSome && source.place?.isSome } := by
  by_cases h : source.location.isSome && context.text.isSome
  · have htext : context.text.isSome := (Bool.and_eq_true _ _ ▸ h).2
    rw [locate_of_file _ _ _ _ h]
    simp only [Node.place_isSome, htext, Bool.true_and]
    rfl
  · rw [locate_of_no_file _ _ _ _ h]
    have hplace : (context.text.isSome && source.place?.isSome) = false := by
      unfold Source.Node.place?
      cases hl : source.location <;> simp_all
    rw [hplace, Bool.or_false]

/-- The position that a node is placed at comes before one that it has already. -/
theorem position_locate :
    (locate context source.location node run).1.position =
      (if context.text.isSome then
        (node.place context.space context.verbose.truthy source.location).1 else none).or
          node.position := by
  by_cases h : source.location.isSome && context.text.isSome
  · have htext : context.text.isSome := (Bool.and_eq_true _ _ ▸ h).2
    rw [locate_of_file _ _ _ _ h, if_pos htext]
    dsimp only
    rw [Node.position_withPosition, Node.position_place]
  · rw [locate_of_no_file _ _ _ _ h]
    have hplace : (if context.text.isSome then
        (node.place context.space context.verbose.truthy source.location).1 else none) = none := by
      split
      · next htext =>
        have hl : source.location = none := by simpa [htext] using h
        rw [← Option.isNone_iff_eq_none, ← Option.not_isSome, Node.place_isSome, hl]
        rfl
      · rfl
    rw [hplace, Option.none_or]

end

end MarkupTree

import MarkupTree.Proofs.Conversion.Recursion

namespace MarkupTree

structure Moment where
  top : Frame
  waiting : List Frame
  run : Run

def moments (top : Frame) (waiting : List Frame) (run : Run) : List Moment :=
  ⟨top, waiting, run⟩ ::
    match _ : advance top waiting run with
    | .running top' waiting' run' => moments top' waiting' run'
    | .finished _ => []
termination_by stackWeight top waiting
decreasing_by exact stackWeight_advance (by assumption)

section
variable {top top' : Frame} {waiting waiting' : List Frame} {run run' : Run}

theorem moments_of_running (h : advance top waiting run = .running top' waiting' run') :
    moments top waiting run = ⟨top, waiting, run⟩ :: moments top' waiting' run' := by
  rw [moments]
  split <;> simp_all

theorem moments_of_finished {outcome : Outcome Node}
    (h : advance top waiting run = .finished outcome) :
    moments top waiting run = [⟨top, waiting, run⟩] := by
  rw [moments]
  split <;> simp_all

/-- What a step of a traversal that goes on does: it enters the next part of the top frame, which waits
from then on, or completes the top frame and hands the result to the nearest frame that waits. -/
theorem advance_eq_running (h : advance top waiting run = .running top' waiting' run') :
    (∃ source pending, top.pending = source :: pending ∧
      Frame.ofNode top.admission.context source = .ok top' ∧
      waiting' = { top with pending := pending } :: waiting ∧ run' = run) ∨
    ∃ node parent, top.pending = [] ∧ top.complete run = (.ok node, run') ∧
      waiting = parent :: waiting' ∧ top' = { parent with results := node :: parent.results } := by
  unfold advance at h
  split at h
  · next source pending hpending =>
    split at h
    · cases h
    · next frame hframe =>
      cases h
      exact .inl ⟨source, pending, hpending, hframe, rfl, rfl⟩
  · next hpending =>
    split at h
    · cases h
    · next node run₁ hcomplete =>
      split at h
      · cases h
      · next parent others =>
        cases h
        exact .inr ⟨node, parent, hpending, hcomplete, rfl, rfl⟩

theorem advance_eq_finished_ok {node : Node}
    (h : advance top waiting run = .finished (.ok node, run')) :
    top.pending = [] ∧ top.complete run = (.ok node, run') ∧ waiting = [] := by
  unfold advance at h
  split at h
  · split at h <;> cases h
  · next hpending =>
    split at h
    · cases h
    · next hcomplete =>
      split at h
      · cases h
        exact ⟨hpending, hcomplete, rfl⟩
      · cases h

/-- What holds at the start of a traversal, and is kept by its steps, holds at the start of every
step. -/
theorem forall_moments {P : Moment → Prop}
    (hstep : ∀ m top waiting run, P m → advance m.top m.waiting m.run = .running top waiting run →
      P ⟨top, waiting, run⟩) (h : P ⟨top, waiting, run⟩) : ∀ m ∈ moments top waiting run, P m := by
  induction top, waiting, run using traverse.induct with
  | case1 top waiting run top' waiting' run' hadvance ih =>
    rw [moments_of_running hadvance, List.forall_mem_cons]
    exact ⟨h, ih (hstep _ _ _ _ h hadvance)⟩
  | case2 top waiting run outcome hadvance =>
    rw [moments_of_finished hadvance, List.forall_mem_singleton]
    exact h

end

/-- The moments of the conversion of a tree. There are none if the tree cannot be entered. -/
def treeMoments (context : Context) (tree : Source.Node) (run : Run) : List Moment :=
  match Frame.ofNode context tree with
  | .error _ => []
  | .ok frame => moments frame [] run

end MarkupTree

import Mathlib.Data.List.Perm.Basic
import MarkupTree.Proofs.Conversion.Moments
import MarkupTree.Proofs.Conversion.Survival

namespace MarkupTree

inductive Move where
  | enter (node : Source.Node)
  | complete (node : Source.Node)

namespace Move

@[simp] def entered? : Move → Option Source.Node
  | enter node => some node
  | complete _ => none

@[simp] def completed? : Move → Option Source.Node
  | enter _ => none
  | complete node => some node

theorem length_eq (moves : List Move) :
    moves.length = (moves.filterMap entered?).length + (moves.filterMap completed?).length := by
  induction moves with
  | nil => rfl
  | cons move moves ih =>
    cases move <;> simp only [List.filterMap_cons, entered?, completed?, List.length_cons] <;> omega

end Move

namespace Source.Node

mutual

/-- The way through the nodes that a conversion of a tree visits. Each of them is entered before its
parts and completed after them. -/
def tour : Source.Node → List Move
  | mk form payload children content =>
    let node := mk form payload children content
    .enter node :: ((tourAll children ++ if node.isTemplate then tourContent content else []) ++
      [.complete node])

def tourAll : List Source.Node → List Move
  | [] => []
  | node :: rest => tour node ++ tourAll rest

def tourContent : Option Source.Node → List Move
  | none => []
  | some node => tour node

end

def visitedParts (node : Source.Node) : List Source.Node :=
  node.children ++ if node.isTemplate then node.content?.toList else []

theorem tourAll_eq (nodes : List Source.Node) : tourAll nodes = nodes.flatMap tour := by
  induction nodes with
  | nil => rfl
  | cons node rest ih => rw [tourAll, ih, List.flatMap_cons]

theorem tour_eq (node : Source.Node) :
    node.tour = .enter node :: (node.visitedParts.flatMap tour ++ [.complete node]) := by
  obtain ⟨form, payload, children, content⟩ := node
  rw [tour, visitedParts, List.flatMap_append, tourAll_eq]
  congr 3
  split
  · cases content <;> simp [tourContent, content?]
  · rfl

/-- Induction on a tree through the nodes that are visited. -/
theorem visitedParts_induction {motive : Source.Node → Prop}
    (parts : ∀ node : Source.Node, (∀ part ∈ node.visitedParts, motive part) → motive node)
    (tree : Source.Node) : motive tree := by
  induction tree with
  | mk form payload children content ihc iht =>
    refine parts _ fun part hpart => ?_
    rcases List.mem_append.mp hpart with hpart | hpart
    · exact ihc part hpart
    · split at hpart
      · exact iht part (Option.mem_toList.mp hpart)
      · cases hpart

theorem entered_tour (tree : Source.Node) : tree.tour.filterMap Move.entered? = tree.visited := by
  induction tree using visitedParts_induction with
  | parts node ih =>
    rw [tour_eq, visited_eq]
    simp only [List.filterMap_cons, Move.entered?, List.filterMap_append, List.filterMap_flatMap,
      List.flatMap_congr ih, List.filterMap_nil, List.append_nil]
    rfl

theorem completed_tour (tree : Source.Node) :
    (tree.tour.filterMap Move.completed?).Perm tree.visited := by
  induction tree using visitedParts_induction with
  | parts node ih =>
    rw [tour_eq, visited_eq]
    simp only [List.filterMap_cons, Move.completed?, List.filterMap_append, List.filterMap_flatMap,
      List.filterMap_nil]
    exact (List.perm_append_singleton node _).trans ((List.Perm.flatMap_left _ ih).cons node)

theorem length_tour (tree : Source.Node) : tree.tour.length = 2 * tree.visited.length := by
  rw [Move.length_eq, entered_tour, tree.completed_tour.length_eq, Nat.two_mul]

end Source.Node

namespace Frame

def move (frame : Frame) : Move :=
  match frame.pending with
  | source :: _ => .enter source
  | [] => .complete frame.node

def plan (frame : Frame) : List Move :=
  frame.pending.flatMap Source.Node.tour ++ [.complete frame.node]

variable {frame : Frame} {context : Context} {source : Source.Node} {pending : List Source.Node}

theorem move_of_cons (h : frame.pending = source :: pending) : frame.move = .enter source := by
  rw [move, h]

theorem plan_of_cons (h : frame.pending = source :: pending) :
    frame.plan = source.tour ++ plan { frame with pending := pending } := by
  rw [plan, h, List.flatMap_cons, List.append_assoc]
  rfl

theorem plan_of_nil (h : frame.pending = []) : frame.plan = [frame.move] := by
  rw [plan, move, h]
  rfl

/-- The next move is the first of those that are left. -/
theorem exists_plan_eq (frame : Frame) : ∃ rest, frame.plan = frame.move :: rest := by
  cases h : frame.pending with
  | nil => exact ⟨[], plan_of_nil h⟩
  | cons source pending =>
    rw [plan_of_cons h, move_of_cons h, Source.Node.tour_eq]
    exact ⟨_, rfl⟩

/-- What is left to do for a node that has just been entered is the rest of its tour. -/
theorem enter_plan (h : Frame.ofNode context source = .ok frame) :
    .enter source :: frame.plan = source.tour := by
  obtain ⟨admission, hentered, rfl⟩ := Frame.ofNode_eq_ok_iff.mp h
  rw [Source.Node.tour_eq, plan, Source.Node.visitedParts, (Admission.of_eq_ok hentered).2.2]
  split <;> rfl

end Frame

namespace Progress

/-- The moves that are left to a traversal, for all the frames that wait. A failure leaves none. -/
def plan : Progress → List Move
  | running top waiting _ => (top :: waiting).flatMap Frame.plan
  | finished _ => []

/-- A traversal that is here ends, after steps that make one of these moves each, with this
outcome. -/
inductive Ends : Progress → List Move → Outcome Node → Prop
  | finished {outcome : Outcome Node} : Ends (finished outcome) [] outcome
  | step {top : Frame} {waiting : List Frame} {run : Run} {moves : List Move}
      {outcome : Outcome Node} (rest : Ends (advance top waiting run) moves outcome) :
      Ends (running top waiting run) (top.move :: moves) outcome

def outcome : Progress → Outcome Node
  | running top waiting run => traverse top waiting run
  | finished outcome => outcome

variable {p : Progress} {moves : List Move} {o : Outcome Node}

/-- A step makes the first move that is left, and leaves the others if it does not fail. -/
theorem plan_advance (top : Frame) (waiting : List Frame) (run : Run) :
    (∃ failure run', advance top waiting run = finished (.error failure, run')) ∨
      plan (running top waiting run) = top.move :: (advance top waiting run).plan := by
  cases hstep : advance top waiting run with
  | running top' waiting' run' =>
    right
    rcases advance_eq_running hstep with ⟨source, pending, hpending, hframe, rfl, rfl⟩ |
      ⟨node, parent, hpending, -, rfl, rfl⟩
    · simp only [plan, List.flatMap_cons, Frame.plan_of_cons hpending, Frame.move_of_cons hpending,
        ← Frame.enter_plan hframe, List.cons_append, List.append_assoc]
    · -- The parent that gets the result has the same parts left as before.
      simp only [plan, List.flatMap_cons, Frame.plan_of_nil hpending]
      rfl
  | finished o =>
    obtain ⟨failure | node, run'⟩ := o
    · exact .inl ⟨failure, run', rfl⟩
    · obtain ⟨hpending, -, rfl⟩ := advance_eq_finished_ok hstep
      right
      rw [plan, List.flatMap_singleton, Frame.plan_of_nil hpending, plan]

theorem exists_plan_eq (top : Frame) (waiting : List Frame) (run : Run) :
    ∃ rest, plan (running top waiting run) = top.move :: rest := by
  obtain ⟨rest, hrest⟩ := top.exists_plan_eq
  rw [plan, List.flatMap_cons, hrest]
  exact ⟨_, rfl⟩

/-- Every traversal ends, since each step leaves fewer moves. -/
theorem exists_ends (p : Progress) : ∃ moves o, p.Ends moves o := by
  induction hplan : p.plan generalizing p with
  | nil =>
    cases p with
    | running top waiting run =>
      obtain ⟨rest, hrest⟩ := exists_plan_eq top waiting run
      cases hplan.symm.trans hrest
    | finished o => exact ⟨[], o, .finished⟩
  | cons move rest ih =>
    cases p with
    | running top waiting run =>
      rcases plan_advance top waiting run with ⟨failure, run', hstep⟩ | hstep
      · refine ⟨[top.move], (.error failure, run'), .step ?_⟩
        rw [hstep]
        exact .finished
      · rw [hstep] at hplan
        obtain ⟨moves, o, hends⟩ := ih _ (List.cons.inj hplan).2
        exact ⟨top.move :: moves, o, .step hends⟩
    | finished o => exact ⟨[], o, .finished⟩

namespace Ends

theorem outcome_eq (h : p.Ends moves o) : p.outcome = o := by
  induction h with
  | finished => rfl
  | @step top waiting run moves o _ ih =>
    rw [← ih, outcome]
    cases hstep : advance top waiting run with
    | running top' waiting' run' => exact traverse_of_running hstep
    | finished o => exact traverse_of_finished hstep

/-- No moves are made but those that are left, in their order. -/
theorem moves_prefix (h : p.Ends moves o) : moves <+: p.plan := by
  induction h with
  | finished => exact List.nil_prefix
  | @step top waiting run moves o hrest ih =>
    rcases plan_advance top waiting run with ⟨failure, run', hstep⟩ | hstep
    · rw [hstep] at hrest
      cases hrest
      obtain ⟨rest, hplan⟩ := exists_plan_eq top waiting run
      rw [hplan]
      exact List.prefix_append [top.move] rest
    · rw [hstep]
      exact (List.prefix_cons_inj _).mpr ih

/-- All of them are made unless a step fails. -/
theorem moves_eq_plan {node : Node} {run : Run} (h : p.Ends moves (.ok node, run)) :
    moves = p.plan := by
  generalize ho : (Except.ok node, run) = o at h
  induction h with
  | finished => rfl
  | @step top waiting run' moves o hrest ih =>
    rcases plan_advance top waiting run' with ⟨failure, run'', hstep⟩ | hstep
    · rw [hstep] at hrest
      cases hrest
      cases ho
    · rw [hstep, ih ho]

end Ends

end Progress

section
variable (run : Run) (options : Options File) (tree : Source.Node)

/-- Where a conversion stands before its first step. It is over by then if the tree cannot be
announced or entered. -/
def Run.outset : Progress :=
  match run.announce options tree with
  | (.error failure, run) => .finished (.error failure, run)
  | (.ok _, run) =>
    match Frame.ofNode (Context.ofOptions options) tree with
    | .error failure => .finished (run.halt (Context.ofOptions options) failure)
    | .ok frame => .running frame [] run

theorem Run.convert_eq_outset :
    run.convert options tree =
      (run.outset options tree).outcome.andThen fun node run => run.conclude node := by
  rw [convert_eq, outset]
  obtain ⟨failure | _, run'⟩ := run.announce options tree
  · rfl
  · rw [Outcome.andThen_ok, convertTree]
    cases Frame.ofNode (Context.ofOptions options) tree <;> rfl

theorem Run.outset_plan :
    .enter tree :: (run.outset options tree).plan = tree.tour ∨
      ∃ failure run', run.outset options tree = .finished (.error failure, run') := by
  unfold outset
  split
  · exact .inr ⟨_, _, rfl⟩
  · split
    · exact .inr ⟨_, _, rfl⟩
    · next hframe =>
      refine .inl ?_
      rw [Progress.plan, List.flatMap_singleton]
      exact Frame.enter_plan hframe

variable {run options tree} {moves : List Move}

theorem Run.outset_moves_prefix {o : Outcome Node}
    (h : (run.outset options tree).Ends moves o) : .enter tree :: moves <+: tree.tour := by
  rcases run.outset_plan options tree with hplan | ⟨failure, run', hfailed⟩
  · rw [← hplan]
    exact (List.prefix_cons_inj _).mpr h.moves_prefix
  · rw [hfailed] at h
    cases h
    rw [Source.Node.tour_eq]
    exact List.prefix_append [_] _

theorem Run.outset_moves_eq {node : Node} {run' : Run}
    (h : (run.outset options tree).Ends moves (.ok node, run')) :
    .enter tree :: moves = tree.tour := by
  rcases run.outset_plan options tree with hplan | ⟨failure, run'', hfailed⟩
  · rw [← hplan, h.moves_eq_plan]
  · rw [hfailed] at h
    cases h

end

/-- The loop of every conversion ends. If no step fails, it takes `2 * n - 1` steps where `n` nodes
are visited: the tree itself is entered before the loop, and the loop enters each other node once,
in preorder, and completes every node once. If a step fails, it takes no more than that. -/
theorem convert_loop_ends (run : Run) (options : Options File) (tree : Source.Node) :
    (∃ moves o, (run.outset options tree).Ends moves o) ∧
    ∀ moves o, (run.outset options tree).Ends moves o →
      run.convert options tree = o.andThen (fun node run => run.conclude node) ∧
      moves.length ≤ 2 * tree.visited.length - 1 ∧
      .enter tree :: moves <+: tree.tour ∧
      ∀ node run', o = (.ok node, run') →
        moves.length = 2 * tree.visited.length - 1 ∧
        .enter tree :: moves = tree.tour ∧
        (Move.enter tree :: moves).filterMap Move.entered? = tree.visited ∧
        (moves.filterMap Move.completed?).Perm tree.visited := by
  refine ⟨Progress.exists_ends _, fun moves o h => ?_⟩
  have hprefix := Run.outset_moves_prefix h
  have hlength := hprefix.length_le
  rw [tree.length_tour, List.length_cons] at hlength
  refine ⟨h.outcome_eq ▸ run.convert_eq_outset options tree, by omega, hprefix, ?_⟩
  rintro node run' rfl
  have htour := Run.outset_moves_eq h
  have hall := congrArg List.length htour
  rw [tree.length_tour, List.length_cons] at hall
  refine ⟨by omega, htour, htour ▸ tree.entered_tour, ?_⟩
  have hcompleted := tree.completed_tour
  rw [← htour, List.filterMap_cons_none rfl] at hcompleted
  exact hcompleted

/-- Eight nodes are visited, among them the child of a comment and both the child and the content of
a template. -/
theorem convert_loop_ends_templates :
    templates.visited.length = 8 ∧ ∃ moves node run,
      ((Run.fresh Options.standard false).outset Options.standard templates).Ends moves
        (.ok node, run) ∧
      moves.length = 15 ∧ (moves.filterMap Move.completed?).Perm templates.visited := by
  have hvisited : templates.visited.length = 8 := rfl
  obtain ⟨⟨moves, o, hends⟩, hall⟩ :=
    convert_loop_ends (Run.fresh Options.standard false) Options.standard templates
  obtain ⟨hconvert, -, -, hok⟩ := hall moves o hends
  rw [convert_templates] at hconvert
  obtain ⟨node, run, rfl, -⟩ := Outcome.andThen_eq_ok_iff.mp hconvert.symm
  obtain ⟨hlength, -, -, hcompleted⟩ := hok node run rfl
  rw [hvisited] at hlength
  exact ⟨hvisited, moves, node, run, hends, hlength, hcompleted⟩

end MarkupTree

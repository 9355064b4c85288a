import MarkupTree.Conversion.Rule

namespace MarkupTree

namespace Source.Node

mutual

/-- Two steps for every node of a parse tree, contents included. -/
def weight : Source.Node → Nat
  | mk _ _ children none => 2 + weightAll children
  | mk _ _ children (some content) => 2 + weightAll children + weight content

def weightAll : List Source.Node → Nat
  | [] => 0
  | node :: rest => weight node + weightAll rest

end

theorem weightAll_append (xs ys : List Source.Node) :
    weightAll (xs ++ ys) = weightAll xs + weightAll ys := by
  induction xs with
  | nil => simp [weightAll]
  | cons x xs ih => simp [weightAll, ih]; omega

theorem weight_eq (node : Source.Node) :
    node.weight = 2 + weightAll (node.children ++ node.content?.toList) := by
  obtain ⟨form, payload, children, content⟩ := node
  cases content <;> simp [weight, Source.Node.children, content?, weightAll_append, weightAll]
  omega

theorem templateContent_eq {node : Source.Node} {rule : Rule} {content : Option Source.Node}
    (h : node.templateContent rule = .ok content) : content = none ∨ content = node.content? := by
  unfold templateContent at h
  split at h
  · next hc =>
    cases hn : node.namesTemplate with
    | error failure => simp [hn, Except.map] at h
    | ok isTemplate =>
      simp only [hn, Except.map, Except.ok.injEq] at h
      cases isTemplate <;> simp_all
  · simp_all

end Source.Node

/-- A node whose parts are being converted: those not yet entered, and the results so far, the
latest first. -/
structure Frame where
  node : Source.Node
  admission : Admission
  pending : List Source.Node
  results : List Node

namespace Frame

def ofNode (context : Context) (node : Source.Node) : Except Failure Frame := do
  let admission ← Admission.of context node
  return ⟨node, admission, node.children ++ admission.content.toList, []⟩

def weight (frame : Frame) : Nat := 1 + Source.Node.weightAll frame.pending

def weightAll : List Frame → Nat
  | [] => 0
  | frame :: rest => frame.weight + weightAll rest

def split (frame : Frame) : List Node × Option Node :=
  match frame.admission.content, frame.results with
  | some _, content :: children => (children.reverse, some content)
  | _, results => (results.reverse, none)

def complete (frame : Frame) (run : Run) : Outcome Node :=
  let (children, content) := frame.split
  frame.admission.complete frame.node children content run

theorem weight_ofNode {context : Context} {node : Source.Node} {frame : Frame}
    (h : ofNode context node = .ok frame) : frame.weight < node.weight := by
  unfold ofNode Admission.of at h
  cases hr : Rule.ofNode node with
  | error failure => simp [hr, bind, Except.bind] at h
  | ok rule =>
    cases hc : node.templateContent rule with
    | error failure => simp [hr, hc, bind, Except.bind] at h
    | ok content =>
      simp only [hr, hc, bind, Except.bind, pure, Except.pure, Except.ok.injEq] at h
      subst h
      rw [Source.Node.weight_eq, weight]
      simp only [Source.Node.weightAll_append]
      rcases Source.Node.templateContent_eq hc with rfl | rfl
      · simp [Source.Node.weightAll]; omega
      · omega

end Frame

/-- Where a traversal stands after a step: the frame at work, the frames that wait for its result,
the nearest first, and the run. -/
inductive Progress where
  | running (top : Frame) (waiting : List Frame) (run : Run)
  | finished (outcome : Outcome Node)

/-- One step of a traversal. The top frame enters its next part, or, when none is left, is
completed and hands its result down. -/
def advance (top : Frame) (waiting : List Frame) (run : Run) : Progress :=
  match top.pending with
  | source :: pending =>
    match Frame.ofNode top.admission.context source with
    | .error failure =>
      let (failure, run) := run.refuse top.admission.context failure
      .finished (.error failure, run)
    | .ok frame => .running frame ({ top with pending := pending } :: waiting) run
  | [] =>
    match top.complete run with
    | (.error failure, run) => .finished (.error failure, run)
    | (.ok node, run) =>
      match waiting with
      | [] => .finished (.ok node, run)
      | parent :: others => .running { parent with results := node :: parent.results } others run

def stackWeight (top : Frame) (waiting : List Frame) : Nat :=
  top.weight + Frame.weightAll waiting

theorem stackWeight_advance {top top' : Frame} {waiting waiting' : List Frame} {run run' : Run}
    (h : advance top waiting run = .running top' waiting' run') :
    stackWeight top' waiting' < stackWeight top waiting := by
  unfold advance at h
  split at h
  · next source pending hp =>
    split at h
    · cases h
    · next frame hf =>
      cases h
      have hw := Frame.weight_ofNode hf
      simp only [stackWeight, Frame.weightAll, Frame.weight, hp, Source.Node.weightAll] at hw ⊢
      omega
  · split at h
    · cases h
    · split at h
      · cases h
      · cases h
        simp only [stackWeight, Frame.weightAll, Frame.weight]
        omega

def traverse (top : Frame) (waiting : List Frame) (run : Run) : Outcome Node :=
  match _ : advance top waiting run with
  | .running top' waiting' run' => traverse top' waiting' run'
  | .finished outcome => outcome
termination_by stackWeight top waiting
decreasing_by exact stackWeight_advance (by assumption)

def convertTree (context : Context) (tree : Source.Node) (run : Run) : Outcome Node :=
  match Frame.ofNode context tree with
  | .error failure =>
    let (failure, run) := run.refuse context failure
    (.error failure, run)
  | .ok frame => traverse frame [] run

def Run.convert (run : Run) (options : Options File) (tree : Source.Node) : Outcome Node :=
  let run := run.restart
  let context := Context.ofOptions options
  match run.note .conversion
      (tree.summary.map fun s => s!"Converting {s} (space={context.space.name})") with
  | .error failure => (.error failure, run)
  | .ok run =>
    match convertTree context tree run with
    | (.error failure, run) => (.error failure, run)
    | (.ok node, run) =>
      match run.note .conversion (node.summary.map fun s => s!"Converted {s}") with
      | .error failure => (.error failure, run)
      | .ok run => (.ok node, run)

end MarkupTree

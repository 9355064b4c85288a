import MarkupTree.Conversion.Recursive
import MarkupTree.Proofs.Conversion.Admission

namespace MarkupTree

namespace Outcome
variable {α β γ : Type}

def andThen (o : Outcome α) (f : α → Run → Outcome β) : Outcome β :=
  match o with
  | (.error failure, run) => (.error failure, run)
  | (.ok a, run) => f a run

@[simp] theorem andThen_ok (a : α) (run : Run) (f : α → Run → Outcome β) :
    andThen (.ok a, run) f = f a run := rfl

@[simp] theorem andThen_error (failure : Failure) (run : Run) (f : α → Run → Outcome β) :
    andThen (.error failure, run) f = (.error failure, run) := rfl

theorem andThen_assoc (o : Outcome α) (f : α → Run → Outcome β) (g : β → Run → Outcome γ) :
    andThen (andThen o f) g = andThen o fun a run => andThen (f a run) g := by
  obtain ⟨failure | a, run⟩ := o <;> rfl

theorem andThen_eq_ok_iff {o : Outcome α} {f : α → Run → Outcome β} {b : β} {run' : Run} :
    andThen o f = (.ok b, run') ↔ ∃ a run, o = (.ok a, run) ∧ f a run = (.ok b, run') := by
  obtain ⟨failure | a, run⟩ := o
  · simp [andThen]
  · constructor
    · intro h
      exact ⟨a, run, rfl, h⟩
    · rintro ⟨_, _, h, hf⟩
      cases h
      exact hf

end Outcome

def Run.halt {α : Type} (run : Run) (context : Context) (failure : Failure) : Outcome α :=
  (.error (run.refuse context failure).1, (run.refuse context failure).2)

theorem convertNodes_cons (context : Context) (node : Source.Node) (rest : List Source.Node)
    (run : Run) :
    convertNodes context (node :: rest) run =
      (convertNode context node run).andThen fun result run =>
        (convertNodes context rest run).andThen fun results run => (.ok (result :: results), run) := by
  rw [convertNodes]
  cases convertNode context node run with
  | mk o run' =>
    cases o with
    | error failure => rfl
    | ok result =>
      simp only [Outcome.andThen_ok]
      obtain ⟨failure | results, run''⟩ := convertNodes context rest run' <;> rfl

theorem convertContent_some (context : Context) (source : Source.Node) (run : Run) :
    convertContent context (some source) run =
      (convertNode context source run).andThen fun result run => (.ok (some result), run) := by
  rw [convertContent]
  obtain ⟨failure | result, run⟩ := convertNode context source run <;> rfl

theorem convertNodes_append (context : Context) (xs ys : List Source.Node) (run : Run) :
    convertNodes context (xs ++ ys) run =
      (convertNodes context xs run).andThen fun first run =>
        (convertNodes context ys run).andThen fun last run => (.ok (first ++ last), run) := by
  induction xs generalizing run with
  | nil =>
    simp only [List.nil_append, convertNodes, Outcome.andThen_ok]
    obtain ⟨failure | last, run'⟩ := convertNodes context ys run <;> rfl
  | cons x xs ih =>
    simp only [List.cons_append, convertNodes_cons, Outcome.andThen_assoc, ih, Outcome.andThen_ok]

theorem convertNode_eq (context : Context) (node : Source.Node) (run : Run) :
    convertNode context node run =
      match Admission.of context node with
      | .error failure => run.halt context failure
      | .ok admission =>
        (convertNodes admission.context node.children run).andThen fun children run =>
          (convertContent admission.context admission.content run).andThen fun content run =>
            admission.complete node children content run := by
  obtain ⟨form, payload, children, content⟩ := node
  rw [convertNode]
  cases ha : Admission.of context (.mk form payload children content) with
  | error failure => rfl
  | ok admission =>
    simp only [Source.Node.children]
    obtain ⟨failure | results, run⟩ := convertNodes admission.context children run
    · rfl
    · simp only [Outcome.andThen_ok]
      rcases Admission.content_eq ha with hc | hc
      · simp [hc, convertContent]
      · simp only [hc, Source.Node.content?]
        cases content with
        | none => simp [convertContent]
        | some source =>
          simp only [Option.isSome_some, if_true]
          obtain ⟨failure | result, run⟩ := convertContent admission.context (some source) run <;> rfl

theorem Frame.ofNode_eq_error_iff {context : Context} {node : Source.Node} {failure : Failure} :
    Frame.ofNode context node = .error failure ↔ Admission.of context node = .error failure := by
  rw [Frame.ofNode]
  cases Admission.of context node <;> simp [bind, Except.bind, pure, Except.pure]

theorem Frame.ofNode_eq_ok_iff {context : Context} {node : Source.Node} {frame : Frame} :
    Frame.ofNode context node = .ok frame ↔ ∃ admission, Admission.of context node = .ok admission ∧
      frame = ⟨node, admission, node.children ++ admission.content.toList, []⟩ := by
  rw [Frame.ofNode]
  cases Admission.of context node <;> simp [bind, Except.bind, pure, Except.pure, eq_comm]

theorem convertNode_of_error {context : Context} {node : Source.Node} {failure : Failure}
    (h : Admission.of context node = .error failure) (run : Run) :
    convertNode context node run = run.halt context failure := by
  rw [convertNode_eq, h]

/-- What follows the completion of a frame: its result goes to the nearest frame that waits, or it
is the result of the whole tree. -/
def resume (waiting : List Frame) (result : Node) (run : Run) : Outcome Node :=
  match waiting with
  | [] => (.ok result, run)
  | parent :: others => traverse { parent with results := result :: parent.results } others run

theorem traverse_of_running {top top' : Frame} {waiting waiting' : List Frame} {run run' : Run}
    (h : advance top waiting run = .running top' waiting' run') :
    traverse top waiting run = traverse top' waiting' run' := by
  rw [traverse]
  split <;> simp_all

theorem traverse_of_finished {top : Frame} {waiting : List Frame} {run : Run}
    {outcome : Outcome Node} (h : advance top waiting run = .finished outcome) :
    traverse top waiting run = outcome := by
  rw [traverse]
  split <;> simp_all

theorem traverse_enter {top : Frame} {source : Source.Node} {pending : List Source.Node}
    (h : top.pending = source :: pending) (waiting : List Frame) (run : Run) :
    traverse top waiting run =
      match Frame.ofNode top.admission.context source with
      | .error failure => run.halt top.admission.context failure
      | .ok frame => traverse frame ({ top with pending := pending } :: waiting) run := by
  cases hf : Frame.ofNode top.admission.context source with
  | error failure => exact traverse_of_finished (by simp [advance, h, hf, Run.halt])
  | ok frame => exact traverse_of_running (by simp [advance, h, hf])

theorem traverse_complete {top : Frame} (h : top.pending = []) (waiting : List Frame) (run : Run) :
    traverse top waiting run = (top.complete run).andThen (resume waiting) := by
  cases hc : top.complete run with
  | mk outcome run' =>
    cases outcome with
    | error failure => exact traverse_of_finished (by simp [advance, h, hc])
    | ok result =>
      cases waiting with
      | nil => exact traverse_of_finished (by simp [advance, h, hc, resume])
      | cons parent others => exact traverse_of_running (by simp [advance, h, hc])

theorem traverse_content (frame : Frame) (children : List Node) (waiting : List Frame) (run : Run) :
    (convertNodes frame.admission.context frame.admission.content.toList run).andThen
      (fun last run => traverse
        { frame with pending := [], results := (children ++ last).reverse } waiting run) =
    (convertContent frame.admission.context frame.admission.content run).andThen
      fun content run =>
        (frame.admission.complete frame.node children content run).andThen (resume waiting) := by
  simp only [traverse_complete]
  cases hc : frame.admission.content with
  | none => simp [convertContent, convertNodes, Frame.complete, Frame.split, hc]
  | some source =>
    simp only [convertContent_some, Option.toList_some, convertNodes_cons, convertNodes,
      Outcome.andThen_assoc, Outcome.andThen_ok]
    congr 1
    funext result run
    simp [Frame.complete, Frame.split, hc]

/-- Whatever frames wait below, a frame whose parts all convert as by recursion collects their
results in order. -/
theorem traverse_pending (top : Frame) (waiting : List Frame) (run : Run)
    (hparts : ∀ node ∈ top.pending, ∀ context frame others run,
      Frame.ofNode context node = .ok frame →
        traverse frame others run = (convertNode context node run).andThen (resume others)) :
    traverse top waiting run =
      (convertNodes top.admission.context top.pending run).andThen fun results run =>
        traverse { top with pending := [], results := results.reverse ++ top.results } waiting run := by
  obtain ⟨node, admission, pending, results⟩ := top
  -- The results grow as the pending parts shrink, so both are general in the induction.
  induction pending generalizing results run with
  | nil => simp [convertNodes]
  | cons source pending ih =>
    rw [traverse_enter rfl, convertNodes_cons]
    cases hf : Frame.ofNode admission.context source with
    | error failure => rw [convertNode_of_error (Frame.ofNode_eq_error_iff.mp hf)]; rfl
    | ok frame =>
      have hsource := hparts source (by simp) admission.context frame
        (⟨node, admission, pending, results⟩ :: waiting) run hf
      simp only [hsource, Outcome.andThen_assoc]
      congr 1
      funext result run
      rw [resume, ih _ _ fun n hn => hparts n (List.mem_cons_of_mem _ hn)]
      simp only [Outcome.andThen_ok, List.reverse_cons, List.append_assoc, List.cons_append,
        List.nil_append]

/-- The invariant of the traversal: a frame that has just been entered runs, on top of any stack,
to the outcome of the recursive conversion of its node, which it hands down. -/
theorem traverse_ofNode (node : Source.Node) : ∀ context frame waiting run,
    Frame.ofNode context node = .ok frame →
      traverse frame waiting run = (convertNode context node run).andThen (resume waiting) := by
  induction node with
  | mk form payload children content ihc iht =>
    intro context frame waiting run hf
    -- The parts run on top of this frame with other frames below, so the stack stays general.
    obtain ⟨admission, ha, rfl⟩ := Frame.ofNode_eq_ok_iff.mp hf
    rw [traverse_pending]
    · rw [convertNode_eq, ha]
      simp only [convertNodes_append, Outcome.andThen_assoc, Outcome.andThen_ok, List.append_nil]
      congr 1
      funext results run
      exact traverse_content ⟨_, admission, [], []⟩ results waiting run
    · intro part hpart
      rcases List.mem_append.mp hpart with hpart | hpart
      · exact ihc part hpart
      · exact iht part (Admission.mem_content ha (Option.mem_toList.mp hpart))

theorem convertTree_eq_convertNode (context : Context) (tree : Source.Node) (run : Run) :
    convertTree context tree run = convertNode context tree run := by
  rw [convertTree]
  cases hf : Frame.ofNode context tree with
  | error failure => rw [convertNode_of_error (Frame.ofNode_eq_error_iff.mp hf)]; rfl
  | ok frame =>
    simp only [traverse_ofNode tree context frame [] run hf]
    obtain ⟨failure | result, run⟩ := convertNode context tree run <;> rfl

def Run.record (run : Run) (channel : Channel) (message : Except Failure String) : Outcome Unit :=
  match run.note channel message with
  | .error failure => (.error failure, run)
  | .ok run => (.ok (), run)

def Run.announce (run : Run) (options : Options File) (tree : Source.Node) : Outcome Unit :=
  run.restart.record .conversion
    (tree.summary.map fun s => s!"Converting {s} (space={(Context.ofOptions options).space.name})")

def Run.conclude (node : Node) (run : Run) : Outcome Node :=
  (run.record .conversion (node.summary.map fun s => s!"Converted {s}")).andThen
    fun _ run => (.ok node, run)

theorem Run.convert_eq (run : Run) (options : Options File) (tree : Source.Node) :
    run.convert options tree = (run.announce options tree).andThen fun _ run =>
      (convertTree (Context.ofOptions options) tree run).andThen fun node run =>
        run.conclude node := by
  simp only [Run.convert, Run.announce, Run.record]
  generalize Context.ofOptions options = context
  cases run.restart.note .conversion
      (tree.summary.map fun s => s!"Converting {s} (space={context.space.name})") with
  | error failure => rfl
  | ok run =>
    simp only [Outcome.andThen_ok]
    obtain ⟨failure | node, run⟩ := convertTree context tree run
    · rfl
    · simp only [Outcome.andThen_ok, Run.conclude, Run.record]
      cases run.note .conversion (node.summary.map fun s => s!"Converted {s}") <;> rfl

theorem Run.convert_eq_convertNode (run : Run) (options : Options File) (tree : Source.Node) :
    run.convert options tree = (run.announce options tree).andThen fun _ run =>
      (convertNode (Context.ofOptions options) tree run).andThen fun node run =>
        run.conclude node := by
  rw [Run.convert_eq]
  simp only [convertTree_eq_convertNode]

/-- A conversion of a run in which the tree is converted by recursion. -/
def Run.convertByRecursion (run : Run) (options : Options File) (tree : Source.Node) :
    Outcome Node :=
  (run.announce options tree).andThen fun _ run =>
    (convertNode (Context.ofOptions options) tree run).andThen fun node run => run.conclude node

/-- From every state of a run, with every set of options, the traversal and the recursion give
every tree the same result or failure and leave the same flag, line index, messages and log. -/
theorem convert_eq_convertByRecursion (run : Run) (options : Options File) (tree : Source.Node) :
    run.convert options tree = run.convertByRecursion options tree := by
  rw [Run.convert_eq_convertNode, Run.convertByRecursion]

end MarkupTree

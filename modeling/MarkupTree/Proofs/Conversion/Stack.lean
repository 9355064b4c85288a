import MarkupTree.Proofs.Conversion.Moments
import MarkupTree.Proofs.Conversion.Survival

namespace MarkupTree

/-- The nodes are the conversions of the trees, in order, each of which starts from the run that the
one before leaves. -/
inductive ConvertedBy (context : Context) (run : Run) : List Source.Node → List Node → Run → Prop
  | nil : ConvertedBy context run [] [] run
  | concat {sources : List Source.Node} {nodes : List Node} {source : Source.Node} {node : Node}
      {run₁ run₂ : Run} (first : ConvertedBy context run sources nodes run₁)
      (last : convertTree context source run₁ = (.ok node, run₂)) :
      ConvertedBy context run (sources ++ [source]) (nodes ++ [node]) run₂

inductive ContentBy (context : Context) (run : Run) : Option Source.Node → Option Node → Run → Prop
  | none : ContentBy context run none none run
  | some {source : Source.Node} {node : Node} {run' : Run}
      (h : convertTree context source run = (.ok node, run')) :
      ContentBy context run (some source) (some node) run'

section
variable {context : Context} {run run' : Run} {sources : List Source.Node} {nodes : List Node}
  {source : Source.Node}

theorem ConvertedBy.convertNodes_eq (h : ConvertedBy context run sources nodes run') :
    convertNodes context sources run = (.ok nodes, run') := by
  induction h with
  | nil => rfl
  | concat _ hlast ih =>
    rw [convertTree_eq_convertNode] at hlast
    rw [convertNodes_append, ih, Outcome.andThen_ok, convertNodes_cons, hlast]
    rfl

theorem ConvertedBy.of_concat (h : ConvertedBy context run (sources ++ [source]) nodes run') :
    ∃ before node mid, nodes = before ++ [node] ∧ ConvertedBy context run sources before mid ∧
      convertTree context source mid = (.ok node, run') := by
  generalize hall : sources ++ [source] = all at h
  cases h with
  | nil => exact absurd hall (by simp)
  | concat first last =>
    obtain ⟨rfl, hsource⟩ := List.append_inj' hall rfl
    obtain rfl := List.singleton_inj.mp hsource
    exact ⟨_, _, _, rfl, first, last⟩

theorem ContentBy.convertContent_eq {content : Option Source.Node} {converted : Option Node}
    (h : ContentBy context run content converted run') :
    convertContent context content run = (.ok converted, run') := by
  cases h with
  | none => rfl
  | some h =>
    rw [convertTree_eq_convertNode] at h
    rw [convertContent_some, h]
    rfl

end

namespace Frame

def sources (frame : Frame) : List Source.Node :=
  frame.node.children ++ frame.admission.content.toList

def index (frame : Frame) : Nat := frame.sources.length - frame.pending.length

/-- A frame converts the content of its node if that is a template. Its sources come apart at its
index into those that it entered and those that are left, and its results are the conversions of the
first `count`, which were done from the one run to the other. -/
structure Collected (frame : Frame) (count : Nat) (opened now : Run) : Prop where
  content_eq : frame.admission.content =
    if frame.node.isTemplate then frame.node.content? else none
  index_add : frame.index + frame.pending.length = frame.sources.length
  pending_eq : frame.pending = frame.sources.drop frame.index
  length_eq : frame.results.length = count
  converted : ConvertedBy frame.admission.context opened (frame.sources.take count)
    frame.results.reverse now

def Finished (frame : Frame) (opened now : Run) : Prop :=
  frame.results.length = frame.sources.length ∧ ∃ nodes content mid,
    frame.split = (nodes, content) ∧
      ConvertedBy frame.admission.context opened frame.node.children nodes mid ∧
      ContentBy frame.admission.context mid
        (if frame.node.isTemplate then frame.node.content? else none) content now

variable {frame : Frame} {context : Context} {node : Source.Node} {opened now run : Run}
  {count : Nat}

theorem collected_ofNode (h : Frame.ofNode context node = .ok frame) (run : Run) :
    frame.Collected frame.index run run := by
  obtain ⟨admission, hentered, rfl⟩ := Frame.ofNode_eq_ok_iff.mp h
  have hindex : index ⟨node, admission, node.children ++ admission.content.toList, []⟩ = 0 := by
    simp [index, sources]
  rw [hindex]
  refine ⟨(Admission.of_eq_ok hentered).2.2, ?_, ?_, rfl, .nil⟩
  · rw [hindex]
    exact Nat.zero_add _
  · rw [hindex]
    rfl

/-- A frame that enters its next part waits with one result less than its index. -/
theorem Collected.enter {source : Source.Node} {pending : List Source.Node}
    (h : frame.Collected frame.index opened now) (hpending : frame.pending = source :: pending) :
    index { frame with pending := pending } = frame.index + 1 ∧
      frame.sources[frame.index]? = some source ∧
      Collected { frame with pending := pending } frame.index opened now := by
  have hdrop : frame.sources.drop frame.index = source :: pending := by
    rw [← h.pending_eq, hpending]
  have hadd : frame.index + (pending.length + 1) = frame.sources.length := by
    rw [← h.index_add, hpending, List.length_cons]
  have hindex : index { frame with pending := pending } = frame.index + 1 := by
    show frame.sources.length - pending.length = frame.index + 1
    omega
  refine ⟨hindex, ?_, h.content_eq, ?_, ?_, h.length_eq, h.converted⟩
  · rw [← List.head?_drop, hdrop, List.head?_cons]
  · rw [hindex]
    show frame.index + 1 + pending.length = frame.sources.length
    omega
  · rw [hindex]
    show pending = frame.sources.drop (frame.index + 1)
    rw [← List.tail_drop, hdrop, List.tail_cons]

/-- A result that is handed to a waiting frame is that of the source at the end of its results. -/
theorem Collected.receive {source : Source.Node} {result : Node}
    (h : frame.Collected count opened now) (hsource : frame.sources[count]? = some source)
    (hresult : convertTree frame.admission.context source now = (.ok result, run)) :
    Collected { frame with results := result :: frame.results } (count + 1) opened run := by
  refine ⟨h.content_eq, h.index_add, h.pending_eq, ?_, ?_⟩
  · rw [List.length_cons, h.length_eq]
  · have hconverted := ConvertedBy.concat h.converted hresult
    rw [List.reverse_cons]
    show ConvertedBy _ _ (frame.sources.take (count + 1)) _ _
    rwa [List.take_add_one, hsource]

/-- The content is the last source, and so its conversion is the last result. -/
theorem Collected.finished (h : frame.Collected frame.index opened now)
    (hpending : frame.pending = []) : frame.Finished opened now := by
  have hindex : frame.index = frame.sources.length := by simp [index, hpending]
  have hconverted := h.converted
  rw [hindex, List.take_length] at hconverted
  refine ⟨by rw [h.length_eq, hindex], ?_⟩
  rw [← h.content_eq]
  obtain ⟨node, admission, pending, results⟩ := frame
  unfold split
  cases hcontent : admission.content with
  | none =>
    simp only [sources, hcontent, Option.toList_none, List.append_nil] at hconverted
    exact ⟨_, _, _, rfl, hconverted, .none⟩
  | some source =>
    simp only [sources, hcontent, Option.toList_some] at hconverted
    obtain ⟨before, result, mid, hresults, hchildren, hresult⟩ := hconverted.of_concat
    obtain rfl : results = result :: before.reverse := by
      rw [← List.reverse_reverse results, hresults, List.reverse_append]
      rfl
    refine ⟨_, _, _, rfl, ?_, .some hresult⟩
    rwa [List.reverse_reverse]

/-- Completing a finished frame is what is left of the conversion of its node. -/
theorem Finished.complete_eq (h : frame.Finished opened now)
    (hentered : Admission.of context frame.node = .ok frame.admission) :
    frame.complete now = convertTree context frame.node opened := by
  obtain ⟨-, nodes, content, mid, hsplit, hchildren, hcontent⟩ := h
  rw [← (Admission.of_eq_ok hentered).2.2] at hcontent
  rw [convertTree_eq_convertNode, convertNode_eq, hentered]
  dsimp only
  rw [hchildren.convertNodes_eq, Outcome.andThen_ok, hcontent.convertContent_eq,
    Outcome.andThen_ok, complete, hsplit]

end Frame

section
variable (context : Context) (tree : Source.Node) (start : Run)

/-- The frames wait for the conversion of a node, from the nearest down to that of the whole tree.
Each has entered the one above it last, and has the results of all that it entered before. -/
inductive Stacked : List Frame → Context → Source.Node → Run → Prop
  | bottom : Stacked [] context tree start
  | frame {frame : Frame} {others : List Frame} {entered : Context} {source : Source.Node}
      {count : Nat} {opened now : Run} (below : Stacked others entered frame.node opened)
      (hentered : Admission.of entered frame.node = .ok frame.admission)
      (hindex : frame.index = count + 1) (hcollected : frame.Collected count opened now)
      (hsource : frame.sources[count]? = some source) :
      Stacked (frame :: others) frame.admission.context source now

/-- The invariant of a traversal: the top frame has the results of all that it entered, and the
frames below wait for its node. -/
def Moment.InOrder (m : Moment) : Prop :=
  ∃ entered opened, Stacked context tree start m.waiting entered m.top.node opened ∧
    Admission.of entered m.top.node = .ok m.top.admission ∧
    m.top.Collected m.top.index opened m.run

end

section
variable {context : Context} {tree : Source.Node} {start : Run}

theorem Moment.inOrder_start {frame : Frame} (h : Frame.ofNode context tree = .ok frame) :
    Moment.InOrder context tree start ⟨frame, [], start⟩ := by
  have hcollected := Frame.collected_ofNode h start
  obtain ⟨admission, hentered, rfl⟩ := Frame.ofNode_eq_ok_iff.mp h
  exact ⟨context, start, .bottom, hentered, hcollected⟩

/-- A step keeps the invariant, whether it enters a node or completes one. -/
theorem Moment.InOrder.advance {m : Moment} (h : m.InOrder context tree start) {top : Frame}
    {waiting : List Frame} {run : Run}
    (hstep : advance m.top m.waiting m.run = .running top waiting run) :
    Moment.InOrder context tree start ⟨top, waiting, run⟩ := by
  obtain ⟨entered, opened, hstacked, hentered, hcollected⟩ := h
  rcases advance_eq_running hstep with ⟨source, pending, hpending, hframe, rfl, rfl⟩ |
    ⟨result, parent, hpending, hcomplete, hwaiting, rfl⟩
  · obtain ⟨hindex, hsource, hwaits⟩ := hcollected.enter hpending
    have hnew := Frame.collected_ofNode hframe m.run
    obtain ⟨admission, hadmission, rfl⟩ := Frame.ofNode_eq_ok_iff.mp hframe
    exact ⟨_, m.run, .frame hstacked hentered hindex hwaits hsource, hadmission, hnew⟩
  · rw [(hcollected.finished hpending).complete_eq hentered] at hcomplete
    rw [hwaiting] at hstacked
    cases hstacked with
    | frame below hparent hindex hcollected' hsource =>
      have hreceived := hcollected'.receive hsource hcomplete
      rw [← hindex] at hreceived
      exact ⟨_, _, below, hparent, hreceived⟩

/-- Every traversal is in order at the start of every step. -/
theorem inOrder_of_mem_treeMoments {m : Moment} (hm : m ∈ treeMoments context tree start) :
    m.InOrder context tree start := by
  unfold treeMoments at hm
  split at hm
  · cases hm
  · next frame hframe =>
    exact forall_moments (fun m top waiting run h hstep => h.advance hstep)
      (Moment.inOrder_start hframe) m hm

theorem Stacked.collected {waiting : List Frame} {entered : Context} {source : Source.Node}
    {now : Run} (h : Stacked context tree start waiting entered source now) :
    ∀ frame ∈ waiting, 0 < frame.index ∧
      ∃ opened now, frame.Collected (frame.index - 1) opened now := by
  induction h with
  | bottom => exact nofun
  | frame _ _ hindex hcollected _ ih =>
    refine List.forall_mem_cons.mpr ⟨⟨by omega, ?_⟩, ih⟩
    rw [hindex, Nat.add_sub_cancel]
    exact ⟨_, _, hcollected⟩

end

/-- At the start of every step of every traversal, the top frame has the conversions of the sources
before its index, in order, and each frame below has all of these but the last. Neither index goes
past the sources. So a frame without pending sources has one result for each source, of which the
last is that of its content if it has one, and only the frame of the whole tree ends the
traversal. -/
theorem stack_in_order (context : Context) (tree : Source.Node) (start : Run) :
    ∀ m ∈ treeMoments context tree start,
      (∃ opened, m.top.Collected m.top.index opened m.run) ∧
      (∀ frame ∈ m.waiting, 0 < frame.index ∧
        ∃ opened now, frame.Collected (frame.index - 1) opened now) ∧
      (m.top.pending = [] → ∃ opened, m.top.Finished opened m.run) ∧
      ∀ node run, advance m.top m.waiting m.run = .finished (.ok node, run) →
        m.top.pending = [] ∧ m.waiting = [] ∧ m.top.node = tree ∧
          convertTree context tree start = (.ok node, run) := by
  intro m hm
  obtain ⟨entered, opened, hstacked, hentered, hcollected⟩ := inOrder_of_mem_treeMoments hm
  refine ⟨⟨opened, hcollected⟩, hstacked.collected,
    fun hpending => ⟨opened, hcollected.finished hpending⟩, fun node run hfinished => ?_⟩
  obtain ⟨hpending, hcomplete, hwaiting⟩ := advance_eq_finished_ok hfinished
  rw [(hcollected.finished hpending).complete_eq hentered] at hcomplete
  rw [hwaiting] at hstacked
  generalize hnode : m.top.node = source at hstacked hcomplete
  cases hstacked
  exact ⟨hpending, hwaiting, rfl, hcomplete⟩

def stuffed : Source.Node :=
  .bare "element" none "template" [.bare "text" "a" none [] none]
    (some (.bare "comment" "b" none [] none))

def stuffedEnd : Moment :=
  ⟨⟨stuffed, ⟨.element, Context.ofOptions Options.standard, stuffed.content?⟩, [],
    [.literal none .comment (.string "b"), .literal none .text (.string "a")]⟩, [],
    Run.fresh Options.standard false⟩

theorem stuffedEnd_mem_treeMoments :
    stuffedEnd ∈
      treeMoments (Context.ofOptions Options.standard) stuffed (Run.fresh Options.standard false) := by
  change _ ∈ moments _ _ _
  rw [moments_of_running rfl, moments_of_running rfl, moments_of_running rfl,
    moments_of_running rfl, moments_of_finished rfl]
  exact List.mem_of_getElem? (i := 4) rfl

theorem stack_in_order_stuffed :
    stuffedEnd ∈ treeMoments (Context.ofOptions Options.standard) stuffed
        (Run.fresh Options.standard false) ∧
      stuffedEnd.top.index = 2 ∧
      stuffedEnd.top.split = ([.literal none .text (.string "a")],
        some (.literal none .comment (.string "b"))) ∧
      (∃ opened, stuffedEnd.top.Collected 2 opened stuffedEnd.run) ∧
      (∃ opened, stuffedEnd.top.Finished opened stuffedEnd.run) ∧
      (convertTree (Context.ofOptions Options.standard) stuffed
          (Run.fresh Options.standard false)).1 =
        .ok (.element none ⟨.string "template", [], none⟩ []
          (some (.literal none .comment (.string "b")))) := by
  have hmem := stuffedEnd_mem_treeMoments
  obtain ⟨hcollected, -, hfinished, hresult⟩ := stack_in_order _ _ _ _ hmem
  obtain ⟨-, -, -, hconverted⟩ := hresult _ _ rfl
  exact ⟨hmem, rfl, rfl, hcollected, hfinished rfl, congrArg Prod.fst hconverted⟩

end MarkupTree

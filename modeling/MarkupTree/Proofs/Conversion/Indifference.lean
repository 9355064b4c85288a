import MarkupTree.Proofs.Conversion.ContextFree
import MarkupTree.Proofs.Conversion.Diagnostics
import MarkupTree.Proofs.Conversion.Tags

namespace MarkupTree

/-- Two runs that a conversion cannot tell apart: it reads neither the messages of the file nor what
the log says. -/
structure Run.Alike (run run' : Run) : Prop where
  located : run'.located = run.located
  index : run'.index = run.index
  log : run'.log.isSome = run.log.isSome

section
variable {context : Context} {source : Source.Node} {run run' : Run}

namespace Run.Alike

theorem record (h : run.Alike run') (channel : Channel) (x : Except Failure String)
    (f g : String → String) :
    (run.record channel (x.map f)).Maps id Alike (run'.record channel (x.map g)) := by
  unfold Run.record
  obtain ⟨failure, hrun, hrun'⟩ | ⟨log, log', hrun, hrun', hlog⟩ := note_both h.log channel x f g
  · rw [hrun, hrun']
    exact ⟨rfl, h⟩
  · rw [hrun, hrun']
    exact .ok ⟨h.located, h.index, hlog⟩

theorem lineIndex (h : run.Alike run') (text : Option String) :
    (run'.lineIndex text).1 = (run.lineIndex text).1 ∧
      (run.lineIndex text).2.Alike (run'.lineIndex text).2 := by
  unfold Run.lineIndex
  rw [h.index]
  cases hindex : run.index with
  | none => exact ⟨rfl, h.located, rfl, h.log⟩
  | some index => exact ⟨rfl, h⟩

theorem refuse (h : run.Alike run') (context : Context) (failure : Failure) :
    (run'.refuse context failure).1 = (run.refuse context failure).1 ∧
      (run.refuse context failure).2.Alike (run'.refuse context failure).2 := by
  cases failure with
  | unsupportedKind node =>
    simp only [Run.refuse]
    obtain ⟨failure, hrun, hrun'⟩ | ⟨log, log', hrun, hrun', hlog⟩ := note_both h.log .conversion
      node.summary (fun s => s!"Unsupported node kind {node.kind.literal}: {s}") _
    · rw [hrun, hrun']
      exact ⟨rfl, h⟩
    · rw [hrun, hrun']
      refine ⟨rfl, ?_⟩
      dsimp only
      split <;> exact ⟨h.located, h.index, hlog⟩
  | _ => exact ⟨rfl, h⟩

end Run.Alike

theorem Rule.convertRoot_alike (h : run.Alike run') (context : Context) (source : Source.Node)
    (children : List Node) :
    (convertRoot context source children run').1 = (convertRoot context source children run).1 ∧
      (convertRoot context source children run).2.Alike
        (convertRoot context source children run').2 := by
  obtain ⟨hindex, halike⟩ := h.lineIndex context.text
  by_cases hspan : context.text.isSome && run.located
  · have hspan' : context.text.isSome && run'.located := by rwa [h.located]
    rw [convertRoot_of_located hspan, convertRoot_of_located hspan', hindex]
    exact ⟨rfl, halike⟩
  · have hspan' : ¬(context.text.isSome && run'.located) := by rwa [h.located]
    rw [convertRoot_of_unlocated hspan, convertRoot_of_unlocated hspan']
    exact ⟨rfl, h⟩

theorem Rule.convertComment_alike (h : run.Alike run') :
    (convertComment source run).Maps id Run.Alike (convertComment source run') := by
  unfold convertComment
  split
  · exact ⟨rfl, h⟩
  · next data hdata =>
    cases sectionText? data.toList with
    | none => exact .ok h
    | some inner =>
      obtain ⟨failure, hrun, hrun'⟩ | ⟨log, log', hrun, hrun', hlog⟩ := Run.note_both h.log .rules
        (.ok "CommentHandler: comment reclassified as cdata") id id
      · cases Run.note_eq_error hrun
      · simp only [Except.map_id, id] at hrun hrun'
        dsimp only
        rw [hrun, hrun']
        exact .ok ⟨h.located, h.index, hlog⟩
  · exact ⟨rfl, h⟩

theorem Rule.convert_alike (h : run.Alike run') (rule : Rule) (children : List Node)
    (content : Option Node) :
    (rule.convert context source children content run).Maps id Run.Alike
      (rule.convert context source children content run') := by
  cases rule with
  | root =>
    obtain ⟨hresult, halike⟩ := convertRoot_alike h context source children
    exact ⟨congrArg Except.ok hresult, halike⟩
  | comment => exact convertComment_alike h
  | text | doctype | element => exact ⟨by simp [convert], h⟩

theorem locate_alike (h : run.Alike run') (context : Context) (source : Source.Node)
    (node : Node) :
    (locate context source.location node run').1 = (locate context source.location node run).1 ∧
      (locate context source.location node run).2.Alike
        (locate context source.location node run').2 := by
  rw [locate_snd, locate_snd]
  exact ⟨locate_fst_run context source.location node run' run, by simp [h.located], h.index, h.log⟩

/-- Runs that are alike stay so at every step, and the steps have the same results. -/
theorem simulation_alike : Simulation Eq Run.Alike id where
  below node h := congrArg (Context.below · node) h
  refuse failure h hrun := by
    subst h
    exact hrun.refuse _ failure
  complete rule part source children content h hrun _ := by
    subst h
    rw [List.map_id, Option.map_id_apply, Admission.complete_eq, Admission.complete_eq]
    apply (Rule.convert_alike hrun rule children content).andThen
    intro made run run' hrun
    obtain ⟨hresult, halike⟩ := locate_alike hrun (Context.below _ source) source made
    exact ⟨congrArg Except.ok hresult, halike⟩

/-- A conversion reads of its options the text of the file and what is to be placed, but not the
space, and of its run whether a log is kept. -/
theorem Run.convert_alike {options options' : Options File}
    (hlog : run'.log.isSome = run.log.isSome)
    (hcontext : ∃ space, Context.ofOptions options' = (Context.ofOptions options).inSpace space)
    (tree : Source.Node) :
    (run.convert options tree).Maps id Alike (run'.convert options' tree) := by
  obtain ⟨space, hcontext⟩ := hcontext
  have hstart : run.restart.Alike run'.restart := ⟨rfl, rfl, hlog⟩
  rw [convert_eq_convertNode, convert_eq_convertNode, hcontext]
  simp only [convertNode_inSpace]
  apply (hstart.record .conversion tree.summary _ _).andThen
  intro _ run run' hrun
  apply (simulation_alike.convertNode_maps tree rfl hrun).andThen
  intro node run run' hrun
  apply (hrun.record .conversion node.summary _ _).andThen
  intro _ run run' hrun
  exact .ok hrun

theorem Run.messages_convert_congr {options options' : Options File} {tree tree' : Source.Node}
    (hmessages : run'.messages = run.messages) (hfile : options'.file.isSome = options.file.isSome)
    (hresult : (run'.convert options' tree').1 = (run.convert options tree).1) :
    (run'.convert options' tree').2.messages = (run.convert options tree).2.messages := by
  rw [run'.convert_reports options' tree', run.convert_reports options tree, hresult, hmessages,
    hfile]

end

/-- The space that is asked for has no part in a conversion: with any two of them it has the same
result or failure and leaves the same flag, index and messages. Every element in the result, at
any depth and inside of templates, has the tag that the rules of its own space make. -/
theorem convert_space_irrelevant (run : Run) (options : Options File) (tree : Source.Node)
    (space space' : Value) :
    let first := run.convert { options with space := space } tree
    let second := run.convert { options with space := space' } tree
    second.1 = first.1 ∧ second.2.located = first.2.located ∧ second.2.index = first.2.index ∧
      second.2.messages = first.2.messages ∧
      ∀ node, first.1 = .ok node → ∀ path source, tree.keptAt? path = some source →
        source.rule? = some .element → ∃ result tag, node.at? path = some result ∧
          result.tag? = some tag ∧
          source.GivesTag source.space (options.file.isSome && options.verbose.truthy) tag := by
  intro first second
  have hcontext : ∃ s, Context.ofOptions { options with space := space' } =
      (Context.ofOptions { options with space := space }).inSpace s := ⟨_, rfl⟩
  have hsame : first.Maps id Run.Alike second := Run.convert_alike rfl hcontext tree
  have hresult : second.1 = first.1 := by rw [hsame.result, Except.map_id, id]
  refine ⟨hresult, hsame.run.located, hsame.run.index,
    Run.messages_convert_congr rfl rfl hresult, ?_⟩
  intro node hnode path source hsource helement
  have hfirst : first = (.ok node, first.2) := Prod.ext hnode rfl
  obtain ⟨_, _, hconverted⟩ := Run.convert_eq_ok hfirst
  obtain ⟨result, p, _, _, hresult, hat, -⟩ := convertNode_at hconverted hsource
  obtain ⟨tag, htag, hgives⟩ := convertNode_givesTag helement hresult
  refine ⟨result.withPosition p, tag, hat, ?_, ?_⟩
  · rw [Node.tag?_withPosition, htag]
  · simpa using hgives

/-- The drawing comes to the same in both spaces, and the caption in it keeps to the rules of its
own. -/
theorem convert_space_irrelevant_drawing :
    ((Run.fresh captioned false).convert { captioned with space := .string "html" } drawing).1 =
        .ok convertedDrawing ∧
      drawing.keptAt? [.child 0, .child 0] = some caption ∧
      caption.rule? = some .element ∧
      ∃ tag, convertedCaption.tag? = some tag ∧ caption.GivesTag .html true tag := by
  obtain ⟨run', h⟩ := convert_drawing
  obtain ⟨hresult, -, -, -, htags⟩ := convert_space_irrelevant (Run.fresh captioned false)
    captioned drawing (.string "svg") (.string "html")
  have hsvg : ((Run.fresh captioned false).convert { captioned with space := .string "svg" }
      drawing).1 = .ok convertedDrawing := congrArg Prod.fst h
  obtain ⟨result, tag, hat, htag, hgives⟩ :=
    htags convertedDrawing hsvg [.child 0, .child 0] caption rfl rfl
  obtain rfl := Option.some.inj hat
  exact ⟨hresult.trans hsvg, rfl, rfl, tag, htag, hgives⟩

end MarkupTree

import MarkupTree.Proofs.Conversion.Diagnostics
import MarkupTree.Proofs.Conversion.Located
import MarkupTree.Proofs.Conversion.Simulation
import MarkupTree.Proofs.Node.Erasure

namespace MarkupTree

/-- The second context places nothing that is not kept: it has no text then, and it never places
tags where it has one. -/
structure Context.Strips (keep : Bool) (context context' : Context) : Prop where
  space : context'.space = context.space
  text : context'.text = if keep then context.text else none
  verbose : keep → context'.verbose.truthy = false

/-- Where positions are kept the runs are the same, and otherwise they need the same kind of log. -/
structure Run.Strips (keep : Bool) (run run' : Run) : Prop where
  log : run'.log.isSome = run.log.isSome
  eq : keep → run' = run

variable {keep : Bool} {context context' : Context} {run run' : Run}

theorem Context.Strips.inSpace (h : context.Strips keep context') (space : Space) :
    (context.inSpace space).Strips keep (context'.inSpace space) := ⟨rfl, h.text, h.verbose⟩

theorem Context.Strips.below (h : context.Strips keep context') (node : Source.Node) :
    (context.below node).Strips keep (context'.below node) := by
  unfold Context.below
  split
  · exact h.inSpace node.space
  · exact h

namespace Run.Strips

theorem note (h : run.Strips keep run') (channel : Channel) (message : Except Failure String) :
    (∃ failure, run.note channel message = .error failure ∧
      run'.note channel message = .error failure) ∨
    ∃ r r', run.note channel message = .ok r ∧ run'.note channel message = .ok r' ∧
      r.Strips keep r' := by
  have hboth := note_both h.log channel message id id
  simp only [Except.map_id, id_eq] at hboth
  obtain ⟨failure, hrun, hrun'⟩ | ⟨log, log', hrun, hrun', hlog⟩ := hboth
  · exact .inl ⟨failure, hrun, hrun'⟩
  · refine .inr ⟨_, _, hrun, hrun', hlog, fun hkeep => ?_⟩
    -- The same run writes the message in one way only.
    obtain rfl := h.eq hkeep
    exact Except.ok.inj (hrun'.symm.trans hrun)

theorem record (h : run.Strips keep run') (channel : Channel) (message : Except Failure String) :
    (run.record channel message).Maps id (Run.Strips keep) (run'.record channel message) := by
  unfold Run.record
  obtain ⟨failure, hrun, hrun'⟩ | ⟨r, r', hrun, hrun', hstrips⟩ := h.note channel message
  · rw [hrun, hrun']
    exact ⟨rfl, h⟩
  · rw [hrun, hrun']
    exact ⟨rfl, hstrips⟩

theorem refuse (hcontext : context.Strips keep context') (h : run.Strips keep run')
    (failure : Failure) :
    (run'.refuse context' failure).1 = (run.refuse context failure).1 ∧
      (run.refuse context failure).2.Strips keep (run'.refuse context' failure).2 := by
  cases failure with
  | unsupportedKind node =>
    simp only [Run.refuse]
    obtain ⟨failure, hrun, hrun'⟩ | ⟨r, r', hrun, hrun', hstrips⟩ := h.note .conversion
      (node.summary.map fun s => s!"Unsupported node kind {node.kind.literal}: {s}")
    · rw [hrun, hrun']
      exact ⟨rfl, h⟩
    · rw [hrun, hrun']
      refine ⟨rfl, ?_, fun hkeep => ?_⟩
      · dsimp only
        split <;> split <;> exact hstrips.log
      · simp [hcontext.text, hkeep, hstrips.eq hkeep]
  | _ => exact ⟨rfl, h⟩

end Run.Strips

namespace Node

theorem ofTag_strip {tag : Tag} (h : tag.positions = none) (children : List Node) :
    ofTag tag (children.map (strip keep)) = (ofTag tag children).strip keep := by
  obtain ⟨name, attributes, positions⟩ := tag
  obtain rfl : positions = none := h
  unfold ofTag
  split <;> simp

theorem build_strip (space : Space) (name : Value) (attributes : List (Value × Value))
    (children : List Node) :
    build space name attributes ((children.map (strip keep)).map Child.node) =
      (build space name attributes (children.map Child.node)).map (strip keep) := by
  simp only [build, childNodes_map_node]
  cases tagName space name with
  | error failure => rfl
  | ok tag =>
    cases spellAttributes space [] attributes with
    | error failure => rfl
    | ok spelled =>
      simp only [bind, Except.bind]
      split
      · exact congrArg Except.ok (ofTag_strip rfl children)
      · rfl

/-- An element of stripped children takes stripped content, which has a position only if positions
are kept. -/
theorem attachContent_strip (hcontext : context.Strips keep context')
    (location : Option Source.Location) (content : Option Node) (name : String)
    (attributes : Entries String Value) (children : List Node) :
    ((ofTag ⟨.string name, attributes, none⟩ children).strip keep).attachContent
        context'.text.isSome location (content.map (strip keep)) =
      ((ofTag ⟨.string name, attributes, none⟩ children).attachContent
        context.text.isSome location content).strip keep := by
  cases content with
  | none => rw [Option.map_none, Rule.attachContent_none, Rule.attachContent_none]
  | some content =>
    rw [← ofTag_strip rfl]
    by_cases h : name = "template"
    · subst h
      rw [Option.map_some, Rule.attachContent_template, Rule.attachContent_template, strip_element,
        Option.map_some, strip_withPosition, position_strip, hcontext.text]
      cases keep <;> simp
    · rw [Rule.attachContent_of_ne h, Rule.attachContent_of_ne h, strip_element]
      simp

end Node

namespace Rule
variable {source : Source.Node}

theorem convertElement_strip (hcontext : context.Strips keep context') (children : List Node)
    (content : Option Node) :
    convertElement context' source (children.map (Node.strip keep))
        (content.map (Node.strip keep)) =
      (convertElement context source children content).map (Node.strip keep) := by
  unfold convertElement
  cases readAttributes [] source.payload.attributes with
  | error failure => rfl
  | ok attributes =>
    cases need "tag_name" source.payload.tagName with
    | error failure => rfl
    | ok name =>
      simp only [bind, Except.bind, hcontext.space, Node.build_strip]
      cases hbuild : Node.build context.space name attributes (children.map Child.node) with
      | error failure => rfl
      | ok element =>
        obtain ⟨s, spelled, -, -, -, rfl⟩ := Node.build_eq_ok_iff.mp hbuild
        simp only [Except.map, pure, Except.pure, Node.attachContent_strip hcontext]

theorem convertRoot_strip (source : Source.Node) (hcontext : context.Strips keep context')
    (hrun : run.Strips keep run') (children : List Node) :
    (convertRoot context' source (children.map (Node.strip keep)) run').1 =
        (convertRoot context source children run).1.strip keep ∧
      (convertRoot context source children run).2.Strips keep
        (convertRoot context' source (children.map (Node.strip keep)) run').2 := by
  have hlog := ((run.lineIndex_follows context.text).log)
  cases keep with
  | false =>
    have htext : context'.text = none := hcontext.text
    rw [convertRoot_of_unlocated (by simp [htext])]
    by_cases hspan : context.text.isSome && run.located
    · rw [convertRoot_of_located hspan]
      exact ⟨by simp, hrun.log.trans hlog.symm, nofun⟩
    · rw [convertRoot_of_unlocated hspan]
      exact ⟨by simp, hrun⟩
  | true =>
    obtain rfl := hrun.eq rfl
    have htext : context'.text = context.text := hcontext.text
    by_cases hspan : context.text.isSome && run'.located
    · rw [convertRoot_of_located hspan, convertRoot_of_located (htext ▸ hspan), htext]
      exact ⟨by simp, rfl, fun _ => rfl⟩
    · rw [convertRoot_of_unlocated hspan, convertRoot_of_unlocated (htext ▸ hspan)]
      exact ⟨by simp, rfl, fun _ => rfl⟩

theorem convertComment_strip (hrun : run.Strips keep run') :
    (convertComment source run).Maps (Node.strip keep) (Run.Strips keep)
      (convertComment source run') := by
  unfold convertComment
  split
  · exact ⟨rfl, hrun⟩
  · split
    · exact ⟨by simp [Except.map], hrun⟩
    · obtain ⟨failure, hnote, hnote'⟩ | ⟨r, r', hnote, hnote', hstrips⟩ := hrun.note .rules
        (.ok "CommentHandler: comment reclassified as cdata")
      · rw [hnote, hnote']
        exact ⟨rfl, hrun⟩
      · rw [hnote, hnote']
        exact ⟨by simp [Except.map], hstrips⟩
  · exact ⟨rfl, hrun⟩

theorem convert_strip (rule : Rule) (hcontext : context.Strips keep context')
    (hrun : run.Strips keep run') (children : List Node) (content : Option Node) :
    (rule.convert context source children content run).Maps (Node.strip keep) (Run.Strips keep)
      (rule.convert context' source (children.map (Node.strip keep))
        (content.map (Node.strip keep)) run') := by
  cases rule with
  | root =>
    obtain ⟨hresult, hleft⟩ := convertRoot_strip source hcontext hrun children
    exact ⟨congrArg Except.ok hresult, hleft⟩
  | text =>
    refine ⟨?_, hrun⟩
    simp only [convert]
    cases need "data" source.payload.data <;> simp [Except.map]
  | comment => exact convertComment_strip hrun
  | doctype => exact ⟨by simp [convert, Except.map], hrun⟩
  | element => exact ⟨convertElement_strip hcontext children content, hrun⟩

end Rule

theorem log_locate (context : Context) (location : Option Source.Location) (node : Node)
    (run : Run) : (locate context location node run).2.log.isSome = run.log.isSome := by
  unfold locate
  split
  · split <;> rfl
  · rfl

section
variable (location : Option Source.Location) (node : Node)

/-- The place of an element depends on the ends of its children, which are kept with all positions
of nodes. -/
theorem Node.place_strip (space : Space) (verbose : Bool) :
    (node.strip true).place space false location =
      ((node.place space verbose location).1,
        (node.place space verbose location).2.strip true) := by
  cases node with
  | element p tag children content =>
    simp only [strip_element, place, repairEnd_strip_true]
    cases verbose <;> simp
  | _ => simp [place]

theorem locate_strip (hcontext : context.Strips keep context') (hrun : run.Strips keep run') :
    (locate context' location (node.strip keep) run').1 =
        (locate context location node run).1.strip keep ∧
      (locate context location node run).2.Strips keep
        (locate context' location (node.strip keep) run').2 := by
  cases keep with
  | false =>
    have htext : context'.text = none := hcontext.text
    rw [locate_of_no_file _ _ _ _ (by simp [htext])]
    obtain ⟨p, positions, hplaced⟩ := locate_eq context location node run
    have hposition : (node.strip false).position = none := node.position_strip false
    refine ⟨?_, hrun.log.trans (log_locate context location node run).symm, nofun⟩
    rw [hplaced, Node.strip_atPlaces, if_neg Bool.false_ne_true, ← hposition,
      Node.withPosition_position]
  | true =>
    obtain rfl := hrun.eq rfl
    have htext : context'.text = context.text := hcontext.text
    by_cases hfile : location.isSome && context.text.isSome
    · rw [locate_of_file _ _ _ _ hfile, locate_of_file _ _ _ _ (htext ▸ hfile), hcontext.space,
        hcontext.verbose rfl, Node.place_strip location node context.space context.verbose.truthy]
      refine ⟨?_, rfl, fun _ => rfl⟩
      simp [Node.strip_withPosition]
    · rw [locate_of_no_file _ _ _ _ hfile, locate_of_no_file _ _ _ _ (htext ▸ hfile)]
      exact ⟨rfl, rfl, fun _ => rfl⟩

end

/-- Every step of a conversion that places less gives what is kept of the other one. -/
theorem simulation_strip (keep : Bool) :
    Simulation (Context.Strips keep) (Run.Strips keep) (Node.strip keep) where
  below node h := h.below node
  refuse failure hcontext hrun := hrun.refuse hcontext failure
  complete rule part source children content hcontext hrun _ := by
    have hbelow := hcontext.below source
    rw [Admission.complete_eq, Admission.complete_eq]
    refine (Rule.convert_strip rule hbelow hrun children content).andThen
      fun made run run' hrun => ?_
    obtain ⟨hresult, hleft⟩ := locate_strip source.location made hbelow hrun
    exact ⟨congrArg Except.ok hresult, hleft⟩

theorem Run.conclude_strip (hrun : run.Strips keep run') (node : Node) :
    (run.conclude node).Maps (Node.strip keep) (Run.Strips keep)
      (run'.conclude (node.strip keep)) := by
  unfold conclude
  rw [node.summary_strip keep]
  exact (hrun.record .conversion _).andThen fun _ run run' hrun => .ok hrun

theorem Run.convert_strip {options options' : Options File}
    (hrun : run.restart.Strips keep run'.restart)
    (hcontext : (Context.ofOptions options).Strips keep (Context.ofOptions options'))
    (tree : Source.Node) :
    (run.convert options tree).Maps (Node.strip keep) (Run.Strips keep)
      (run'.convert options' tree) := by
  rw [convert_eq_convertNode, convert_eq_convertNode]
  have hannounce : (run.announce options tree).Maps id (Run.Strips keep)
      (run'.announce options' tree) := by
    unfold announce
    rw [hcontext.space]
    exact hrun.record .conversion _
  refine hannounce.andThen fun _ run run' hrun => ?_
  refine ((simulation_strip keep).convertNode_maps tree hcontext hrun).andThen
    fun node run run' hrun => ?_
  exact conclude_strip hrun node

end MarkupTree

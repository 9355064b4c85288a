import MarkupTree.Proofs.Conversion.Located
import MarkupTree.Proofs.Conversion.Moments
import MarkupTree.Workspace

namespace MarkupTree

/-- What a use of a line index leads to: the answer to a request for points, or the position that a
root is given. -/
inductive Shown where
  | points (offsets : List (Option Int)) (answer : Answer)
  | extent (position : Option Position)

def Shown.By (index : LineIndex) : Shown → Prop
  | points offsets answer => answer = .points index.length (offsets.map index.toPoint)
  | extent position => position = some index.whole

/-- One use of the line index of a run: the text that the file holds then, the index that is kept
from before, the index that is used, and what it is used for. -/
structure Lookup where
  text : Option String
  cached : Option LineIndex
  index : LineIndex
  shown : Shown

inductive IndexEvent where
  | start
  | lookup (lookup : Lookup)

/-- A start clears what is kept. A lookup takes what is kept or else makes the index of its text,
shows what that tells, and keeps it. -/
inductive Served : Option LineIndex → List IndexEvent → Option LineIndex → Prop
  | nil {kept : Option LineIndex} : Served kept [] kept
  | start {kept kept' : Option LineIndex} {events : List IndexEvent}
      (rest : Served none events kept') : Served kept (.start :: events) kept'
  | lookup {kept kept' : Option LineIndex} {text : Option String} {index : LineIndex}
      {shown : Shown} {events : List IndexEvent}
      (hindex : index = kept.getD (.ofText (text.getD "None"))) (hshown : shown.By index)
      (rest : Served (some index) events kept') :
      Served kept (.lookup ⟨text, kept, index, shown⟩ :: events) kept'

namespace Served
variable {kept kept' kept'' : Option LineIndex} {events events' : List IndexEvent}

theorem append (h : Served kept events kept') (h' : Served kept' events' kept'') :
    Served kept (events ++ events') kept'' := by
  induction h with
  | nil => exact h'
  | start _ ih => exact .start (ih h')
  | lookup hindex hshown _ ih => exact .lookup hindex hshown (ih h')

theorem of_append (h : Served kept (events ++ events') kept'') :
    ∃ kept', Served kept events kept' ∧ Served kept' events' kept'' := by
  induction events generalizing kept with
  | nil => exact ⟨kept, .nil, h⟩
  | cons event events ih =>
    cases h with
    | start rest =>
      obtain ⟨kept', hfirst, hrest⟩ := ih rest
      exact ⟨kept', .start hfirst, hrest⟩
    | lookup hindex hshown rest =>
      obtain ⟨kept', hfirst, hrest⟩ := ih rest
      exact ⟨kept', .lookup hindex hshown hfirst, hrest⟩

/-- Without a start in between, all lookups use the index that is kept. -/
theorem eq_of_kept {index : LineIndex} {lookups : List Lookup}
    (h : Served (some index) (lookups.map .lookup) kept') :
    ∀ l ∈ lookups, l.cached = some index ∧ l.index = index ∧ l.shown.By index := by
  induction lookups with
  | nil => simp
  | cons first rest ih =>
    cases h with
    | lookup hindex hshown hrest =>
      subst hindex
      exact List.forall_mem_cons.mpr ⟨⟨rfl, rfl, hshown⟩, ih hrest⟩

end Served

namespace Run
variable (run : Run) (text : Option String)

def lookup (shown : Shown) : Lookup := ⟨text, run.index, (run.lineIndex text).1, shown⟩

theorem lineIndex_snd :
    (run.lineIndex text).2 = { run with index := some (run.lineIndex text).1 } := by
  obtain ⟨located, index, messages, log⟩ := run
  cases index <;> rfl

theorem served_lookup {shown : Shown} (hshown : shown.By (run.lineIndex text).1) :
    Served run.index [.lookup (run.lookup text shown)] (run.lineIndex text).2.index := by
  rw [lineIndex_snd]
  refine .lookup ?_ hshown .nil
  rw [lineIndex]
  cases run.index <;> rfl

theorem index_note {run run' : Run} {channel : Channel} {message : Except Failure String}
    (h : run.note channel message = .ok run') : run'.index = run.index := by
  obtain ⟨log, -, rfl⟩ := note_eq_ok h
  rfl

theorem index_refuse (context : Context) (failure : Failure) :
    (run.refuse context failure).2.index = run.index := by
  unfold refuse
  split
  · dsimp only
    split
    · rfl
    · next hnote =>
      have hindex := index_note hnote
      split <;> exact hindex
  · rfl

end Run

section
variable (context : Context) (source : Source.Node) (children : List Node) (content : Option Node)
  (run : Run)

theorem Rule.index_convert (rule : Rule) :
    (rule.convert context source children content run).2.index =
      if rule = .root ∧ context.text.isSome ∧ run.located then some (run.lineIndex context.text).1
      else run.index := by
  cases rule with
  | root =>
    by_cases hlocated : context.text.isSome ∧ run.located
    · have hspan : context.text.isSome && run.located := Bool.and_eq_true_iff.mpr hlocated
      rw [if_pos ⟨rfl, hlocated⟩, convert, convertRoot_of_located hspan, Run.lineIndex_snd]
    · have hspan : ¬(context.text.isSome && run.located) := mt Bool.and_eq_true_iff.mp hlocated
      rw [if_neg fun h => hlocated h.2, convert, convertRoot_of_unlocated hspan]
  | comment =>
    simp only [convert, convertComment, reduceCtorEq, false_and, if_false]
    split
    · rfl
    · split
      · rfl
      · split
        · rfl
        · exact Run.index_note (by assumption)
    · rfl
  | text | doctype | element => rfl

theorem Admission.index_complete (a : Admission) :
    (a.complete source children content run).2.index =
      (a.rule.convert a.context source children content run).2.index := by
  rw [complete]
  obtain ⟨failure | made, run'⟩ := a.rule.convert a.context source children content run
  · rfl
  · dsimp only
    rw [locate_snd]

end

def Progress.run : Progress → Run
  | running _ _ run => run
  | finished outcome => outcome.2

def Moment.rootPosition (m : Moment) : Option Position :=
  (Rule.convertRoot m.top.admission.context m.top.node m.top.split.1 m.run).1.position

/-- The lookup of the step in which a root is completed: where a node is located, the root is given
the extent of the text. -/
def Moment.lookups (text : Option String) (m : Moment) : List Lookup :=
  if m.top.pending.isEmpty ∧ m.top.admission.rule = .root ∧ text.isSome ∧ m.run.located then
    [m.run.lookup text (.extent m.rootPosition)]
  else []

theorem Moment.rootPosition_by {m : Moment}
    (h : m.top.admission.context.text.isSome ∧ m.run.located) :
    (Shown.extent m.rootPosition).By (m.run.lineIndex m.top.admission.context.text).1 := by
  have hspan : m.top.admission.context.text.isSome && m.run.located := Bool.and_eq_true_iff.mpr h
  rw [rootPosition, Rule.convertRoot_of_located hspan]
  rfl

def ForText (text : Option String) (frames : List Frame) : Prop :=
  ∀ frame ∈ frames, frame.admission.context.text = text

section
variable {text : Option String} {top top' : Frame} {waiting waiting' : List Frame} {run run' : Run}

theorem Frame.text_ofNode {context : Context} {node : Source.Node} {frame : Frame}
    (h : Frame.ofNode context node = .ok frame) : frame.admission.context.text = context.text := by
  obtain ⟨admission, ha, rfl⟩ := Frame.ofNode_eq_ok_iff.mp h
  obtain ⟨-, hcontext, -⟩ := Admission.of_eq_ok ha
  rw [hcontext, Context.text_below]

theorem ForText.advance (h : ForText text (top :: waiting))
    (hstep : advance top waiting run = .running top' waiting' run') :
    ForText text (top' :: waiting') := by
  obtain ⟨htop, hwaiting⟩ := List.forall_mem_cons.mp h
  unfold MarkupTree.advance at hstep
  split at hstep
  · split at hstep
    · cases hstep
    · next hframe =>
      cases hstep
      refine List.forall_mem_cons.mpr ⟨(Frame.text_ofNode hframe).trans htop, ?_⟩
      exact List.forall_mem_cons.mpr ⟨htop, hwaiting⟩
  · split at hstep
    · cases hstep
    · split at hstep
      · cases hstep
      · cases hstep
        obtain ⟨hparent, hothers⟩ := List.forall_mem_cons.mp hwaiting
        exact List.forall_mem_cons.mpr ⟨hparent, hothers⟩

theorem Frame.index_complete (frame : Frame) (run : Run) :
    (frame.complete run).2.index =
      if frame.admission.rule = .root ∧ frame.admission.context.text.isSome ∧ run.located then
        some (run.lineIndex frame.admission.context.text).1
      else run.index := by
  rw [complete, Admission.index_complete, Rule.index_convert]

theorem advance_nil_run (hpending : top.pending = []) (waiting : List Frame) (run : Run) :
    (advance top waiting run).run = (top.complete run).2 := by
  unfold MarkupTree.advance
  rw [hpending]
  dsimp only
  obtain ⟨failure | node, run'⟩ := top.complete run
  · rfl
  · cases waiting <;> rfl

theorem index_advance_cons {source : Source.Node} {pending : List Source.Node}
    (hpending : top.pending = source :: pending) (waiting : List Frame) (run : Run) :
    (advance top waiting run).run.index = run.index := by
  unfold MarkupTree.advance
  rw [hpending]
  dsimp only
  cases Frame.ofNode top.admission.context source with
  | error failure => exact Run.index_refuse run _ failure
  | ok frame => rfl

/-- A step serves its lookup, and leaves what is kept if it has none. -/
theorem served_advance (htop : top.admission.context.text = text) (waiting : List Frame)
    (run : Run) :
    Served run.index ((Moment.lookups text ⟨top, waiting, run⟩).map .lookup)
      (advance top waiting run).run.index := by
  cases hpending : top.pending with
  | cons source pending =>
    rw [index_advance_cons hpending, Moment.lookups, if_neg (by simp [hpending])]
    exact .nil
  | nil =>
    rw [advance_nil_run hpending, Frame.index_complete, htop]
    by_cases hroot : top.admission.rule = .root ∧ text.isSome ∧ run.located
    · have hshown := Moment.rootPosition_by (m := ⟨top, waiting, run⟩) (htop.symm ▸ hroot.2)
      dsimp only at hshown
      have hserved := run.served_lookup text (htop ▸ hshown)
      rw [Run.lineIndex_snd] at hserved
      rw [if_pos hroot, Moment.lookups, if_pos ⟨by simp [hpending], hroot⟩]
      exact hserved
    · rw [if_neg hroot, Moment.lookups, if_neg fun h => hroot h.2]
      exact .nil

/-- The lookups of a whole traversal are served one after the other, also when it fails. -/
theorem served_traverse (h : ForText text (top :: waiting)) (run : Run) :
    Served run.index (((moments top waiting run).flatMap (Moment.lookups text)).map .lookup)
      (traverse top waiting run).2.index := by
  induction top, waiting, run using traverse.induct with
  | case1 top waiting run top' waiting' run' hstep ih =>
    have hserved := served_advance (h top List.mem_cons_self) waiting run
    rw [hstep] at hserved
    rw [traverse_of_running hstep, moments_of_running hstep, List.flatMap_cons, List.map_append]
    exact hserved.append (ih (h.advance hstep))
  | case2 top waiting run outcome hstep =>
    have hserved := served_advance (h top List.mem_cons_self) waiting run
    rw [hstep] at hserved
    rw [traverse_of_finished hstep, moments_of_finished hstep, List.flatMap_singleton]
    exact hserved

end

/-- The lookups while a tree is converted, in order, up to the failure if it fails. -/
def treeLookups (context : Context) (tree : Source.Node) (run : Run) : List Lookup :=
  match Frame.ofNode context tree with
  | .error _ => []
  | .ok frame => (moments frame [] run).flatMap (Moment.lookups context.text)

theorem served_convertTree (context : Context) (tree : Source.Node) (run : Run) :
    Served run.index ((treeLookups context tree run).map .lookup)
      (convertTree context tree run).2.index := by
  unfold convertTree treeLookups
  cases hframe : Frame.ofNode context tree with
  | error failure =>
    dsimp only
    rw [Run.index_refuse]
    exact .nil
  | ok frame =>
    have htext : ForText context.text [frame] := List.forall_mem_singleton.mpr
      (Frame.text_ofNode hframe)
    exact served_traverse htext run

namespace Run
variable (run : Run) (options : Options File) (tree : Source.Node)

def lookups : List Lookup :=
  match run.announce options tree with
  | (.error _, _) => []
  | (.ok _, run) => treeLookups (Context.ofOptions options) tree run

theorem index_record (channel : Channel) (message : Except Failure String) :
    (run.record channel message).2.index = run.index := by
  unfold record
  split
  · rfl
  · exact index_note (by assumption)

theorem index_conclude (node : Node) : (conclude node run).2.index = run.index := by
  have hindex := run.index_record .conversion (node.summary.map fun s => s!"Converted {s}")
  unfold conclude
  generalize run.record _ _ = recorded at hindex ⊢
  obtain ⟨failure | _, run'⟩ := recorded <;> exact hindex

/-- A conversion starts anew, and serves its lookups. -/
theorem served_convert :
    Served run.index (.start :: (run.lookups options tree).map .lookup)
      (run.convert options tree).2.index := by
  refine .start ?_
  have hstart : (run.announce options tree).2.index = none := index_record _ _ _
  rw [convert_eq, lookups]
  generalize run.announce options tree = announced at hstart ⊢
  obtain ⟨failure | _, begun⟩ := announced
  · rw [Outcome.andThen_error, hstart]
    exact .nil
  · have hserved := served_convertTree (Context.ofOptions options) tree begun
    rw [hstart] at hserved
    rw [Outcome.andThen_ok]
    generalize convertTree _ tree begun = converted at hserved ⊢
    obtain ⟨failure | node, ended⟩ := converted
    · exact hserved
    · rw [Outcome.andThen_ok, index_conclude]
      exact hserved

end Run

end MarkupTree

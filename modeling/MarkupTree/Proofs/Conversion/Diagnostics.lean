import MarkupTree.Proofs.Conversion.Rules
import MarkupTree.Proofs.Conversion.Recursion

namespace MarkupTree

def NotRefused {α : Type} (x : Except Failure α) : Prop :=
  ∀ source, x ≠ .error (.unsupportedKind source)

namespace NotRefused
variable {α β : Type}

theorem ok (a : α) : NotRefused (.ok a) := fun _ h => by cases h

theorem bind {x : Except Failure α} {f : α → Except Failure β} (hx : NotRefused x)
    (hf : ∀ a, NotRefused (f a)) : NotRefused (x >>= f) := by
  cases x with
  | error failure => exact fun source h => hx source (by cases h; rfl)
  | ok a => exact hf a

theorem need (name : String) (field : Option Value) : NotRefused (need name field) := by
  cases field <;> exact fun _ h => by cases h

theorem qualify (qualifier name : Value) : NotRefused (qualify qualifier name) := by
  unfold MarkupTree.qualify
  split
  · split <;> exact fun _ h => by cases h
  · exact ok name

theorem entry (a : Source.Attribute) : NotRefused a.entry :=
  (need _ _).bind fun _ => (need _ _).bind fun _ => (qualify _ _).bind fun qualified =>
    (need _ _).bind fun _ => by
      split
      · exact ok _
      · exact fun _ h => by cases h

theorem readAttributes (done : Entries Value Value) (attributes : List Source.Attribute) :
    NotRefused (readAttributes done attributes) := by
  induction attributes generalizing done with
  | nil => exact ok done
  | cons a rest ih => exact (entry a).bind fun _ => ih _

theorem tagName (space : Space) (name : Value) : NotRefused (Node.tagName space name) := by
  unfold Node.tagName
  split
  · split <;> exact fun _ h => by cases h
  · exact ok name

theorem spellAttributes (space : Space) (done : Entries String Value)
    (attributes : List (Value × Value)) :
    NotRefused (Node.spellAttributes space done attributes) := by
  induction attributes generalizing done with
  | nil => exact ok done
  | cons p rest ih =>
    obtain ⟨name, v⟩ := p
    cases name with
    | string name => exact ih _
    | _ => exact fun _ h => by cases h

theorem build (space : Space) (name : Value) (attributes : List (Value × Value))
    (children : List Node) :
    NotRefused (Node.build space name attributes (children.map Child.node)) := by
  unfold Node.build
  rw [Node.childNodes_map_node]
  refine (tagName space name).bind fun tag => (spellAttributes space [] attributes).bind
    fun _ => (ok children).bind fun _ => ?_
  split
  · exact ok _
  · exact fun _ h => by cases h

theorem convertElement (context : Context) (source : Source.Node) (children : List Node)
    (content : Option Node) : NotRefused (Rule.convertElement context source children content) :=
  (readAttributes _ _).bind fun _ => (need _ _).bind fun _ => (build _ _ _ _).bind fun _ => ok _

end NotRefused

/-- The messages after an outcome: where there is a file, a node of an unsupported kind adds one. -/
def Outcome.Reports {α : Type} (hasFile : Bool) (messages : List Diagnostic) (o : Outcome α) :
    Prop :=
  o.2.messages = match o.1 with
    | .error (.unsupportedKind source) =>
      if hasFile then messages ++ [Run.unsupported source] else messages
    | _ => messages

namespace Outcome.Reports
variable {α β : Type} {hasFile : Bool} {messages : List Diagnostic}

theorem of_notRefused {o : Outcome α} (h : NotRefused o.1) (hm : o.2.messages = messages) :
    o.Reports hasFile messages := by
  obtain ⟨x, run⟩ := o
  rw [Reports, hm]
  split
  · next source hsource => exact absurd hsource (h source)
  · rfl

theorem andThen {o : Outcome α} {f : α → Run → Outcome β} (h : o.Reports hasFile messages)
    (hf : ∀ a run, o = (.ok a, run) → run.messages = messages →
      (f a run).Reports hasFile messages) : (o.andThen f).Reports hasFile messages := by
  obtain ⟨failure | a, run⟩ := o
  · cases failure <;> exact h
  · exact hf a run rfl h

end Outcome.Reports

theorem Run.messages_note {run run' : Run} {channel : Channel} {message : Except Failure String}
    (h : run.note channel message = .ok run') : run'.messages = run.messages := by
  unfold note at h
  split at h <;> cases h <;> rfl

theorem Run.note_eq_error {run : Run} {channel : Channel} {message : Except Failure String}
    {failure : Failure} (h : run.note channel message = .error failure) :
    message = .error failure := by
  unfold note at h
  split at h <;> cases h
  rfl

theorem Run.note_ok (run : Run) (channel : Channel) (message : String) :
    ∃ run', run.note channel (.ok message) = .ok run' := by
  cases hnote : run.note channel (.ok message) with
  | error failure => cases note_eq_error hnote
  | ok run' => exact ⟨run', rfl⟩

theorem Run.record_reports (hasFile : Bool) (run : Run) (channel : Channel)
    {message : Except Failure String} (h : NotRefused message) :
    (run.record channel message).Reports hasFile run.messages := by
  unfold record
  split
  · next failure hnote =>
    refine .of_notRefused ?_ rfl
    rw [note_eq_error hnote] at h
    exact fun source hs => h source (by cases hs; rfl)
  · next hnote => exact .of_notRefused (.ok ()) (messages_note hnote)

theorem Rule.convert_reports (hasFile : Bool) (rule : Rule) (context : Context)
    (source : Source.Node) (children : List Node) (content : Option Node) (run : Run) :
    (rule.convert context source children content run).Reports hasFile run.messages := by
  cases rule with
  | root =>
    refine .of_notRefused (.ok _) ?_
    simp only [convert, convertRoot]
    split
    · unfold Run.lineIndex
      split <;> rfl
    · rfl
  | text =>
    refine .of_notRefused ?_ rfl
    exact (NotRefused.need "data" source.payload.data).bind fun _ => .ok _
  | comment =>
    have hneed := NotRefused.need "data" source.payload.data
    simp only [convert, convertComment]
    split
    · next failure hfailure =>
      rw [hfailure] at hneed
      exact .of_notRefused (fun s h => hneed s (by cases h; rfl)) rfl
    · split
      · exact .of_notRefused (.ok _) rfl
      · split
        · next hnote => cases Run.note_eq_error hnote
        · next hnote => exact .of_notRefused (.ok _) (Run.messages_note hnote)
    · exact .of_notRefused (fun s h => by cases h) rfl
  | doctype => exact .of_notRefused (.ok _) rfl
  | element => exact .of_notRefused (.convertElement context source children content) rfl

theorem messages_locate (context : Context) (location : Option Source.Location) (node : Node)
    (run : Run) : (locate context location node run).2.messages = run.messages := by
  unfold locate
  split
  · split <;> rfl
  · rfl

theorem Admission.complete_reports (hasFile : Bool) (admission : Admission) (source : Source.Node)
    (children : List Node) (content : Option Node) (run : Run) :
    (admission.complete source children content run).Reports hasFile run.messages := by
  have hconvert := Rule.convert_reports hasFile admission.rule admission.context source children
    content run
  unfold complete
  split
  · next failure run' h =>
    rw [h] at hconvert
    exact hconvert
  · next result run' h =>
    rw [h] at hconvert
    refine .of_notRefused (.ok _) ?_
    rw [messages_locate]
    exact hconvert

theorem NotRefused.summary {α : Type} (source : Source.Node) (f : String → α) :
    NotRefused (source.summary.map f) := by
  unfold Source.Node.summary
  split
  · exact ok _
  · exact fun _ h => by cases h

theorem NotRefused.nodeSummary {α : Type} (node : Node) (f : String → α) :
    NotRefused (node.summary.map f) := by
  unfold Node.summary
  split
  · exact ok _
  · exact fun _ h => by cases h
  · exact fun _ h => by cases h

theorem Run.halt_reports {α : Type} (run : Run) (context : Context) (failure : Failure) :
    (run.halt context failure : Outcome α).Reports context.text.isSome run.messages := by
  cases failure with
  | unsupportedKind source =>
    have hsummary := NotRefused.summary source fun s =>
      s!"Unsupported node kind {source.kind.literal}: {s}"
    simp only [halt, refuse]
    split
    · next failure hnote =>
      rw [note_eq_error hnote] at hsummary
      exact .of_notRefused (fun s h => hsummary s (by cases h; rfl)) rfl
    · next run' hnote =>
      simp only [Outcome.Reports]
      split <;> simp [messages_note hnote]
  | _ => rfl

section
variable {context : Context}

theorem convertNodes_reports {sources : List Source.Node} (run : Run)
    (h : ∀ s ∈ sources, ∀ run,
      (convertNode context s run).Reports context.text.isSome run.messages) :
    (convertNodes context sources run).Reports context.text.isSome run.messages := by
  induction sources generalizing run with
  | nil => exact .of_notRefused (.ok []) rfl
  | cons s rest ih =>
    rw [convertNodes_cons]
    refine (h s List.mem_cons_self run).andThen fun result run₁ _ hrun₁ => ?_
    have hrest := ih run₁ fun s hs => h s (List.mem_cons_of_mem _ hs)
    rw [hrun₁] at hrest
    exact hrest.andThen fun results run₂ _ hrun₂ => .of_notRefused (.ok _) hrun₂

theorem convertContent_reports {content : Option Source.Node} (run : Run)
    (h : ∀ s ∈ content, ∀ run,
      (convertNode context s run).Reports context.text.isSome run.messages) :
    (convertContent context content run).Reports context.text.isSome run.messages := by
  cases content with
  | none => exact .of_notRefused (.ok none) rfl
  | some s =>
    rw [convertContent_some]
    exact (h s rfl run).andThen fun result run' _ hrun' => .of_notRefused (.ok _) hrun'

end

/-- However deep in a tree a node is refused, that is the one remark which is made. -/
theorem convertNode_reports (source : Source.Node) : ∀ context run,
    (convertNode context source run).Reports context.text.isSome run.messages := by
  induction source with
  | mk form payload children content ihc iht =>
    intro context run
    rw [convertNode_eq]
    split
    · exact run.halt_reports context _
    · next admission ha =>
      obtain ⟨-, hcontext, hcontent⟩ := Admission.of_eq_ok ha
      -- All parts are converted under the text of the same file.
      have htext : admission.context.text = context.text := by
        rw [hcontext, Context.text_below]
      rw [← htext]
      refine (convertNodes_reports run fun s hs run => ihc s hs _ run).andThen
        fun results run₁ _ hrun₁ => ?_
      have hconverted : (convertContent admission.context admission.content run₁).Reports _ _ :=
        convertContent_reports run₁ fun s hs run => iht s (Admission.mem_content ha hs) _ run
      rw [hrun₁] at hconverted
      refine hconverted.andThen fun converted run₂ _ hrun₂ => ?_
      rw [← hrun₂]
      exact Admission.complete_reports _ admission _ results converted run₂

theorem Run.conclude_reports (hasFile : Bool) (node : Node) (run : Run) :
    (run.conclude node).Reports hasFile run.messages :=
  (run.record_reports hasFile .conversion (.nodeSummary node _)).andThen
    fun _ _ _ hrun => .of_notRefused (.ok node) hrun

theorem Run.convert_reports (run : Run) (options : Options File) (tree : Source.Node) :
    (run.convert options tree).Reports options.file.isSome run.messages := by
  have hfile : options.file.isSome = (Context.ofOptions options).text.isSome := by
    simp
  rw [convert_eq_convertNode, hfile]
  refine (run.restart.record_reports _ .conversion (.summary tree _)).andThen
    fun _ run₁ _ hrun₁ => ?_
  have hnode := convertNode_reports tree (Context.ofOptions options) run₁
  rw [show run₁.messages = run.messages from hrun₁] at hnode
  refine hnode.andThen fun node run₂ _ hrun₂ => ?_
  rw [← hrun₂]
  exact run₂.conclude_reports _ node

end MarkupTree

import Mathlib.Data.List.Forall2
import MarkupTree.Proofs.Conversion.Recursion
import MarkupTree.Proofs.Construction.Spelling
import MarkupTree.Proofs.Node.Preorder

namespace MarkupTree

variable {context : Context} {source : Source.Node} {run run' : Run} {result : Node}

theorem convertContent_eq_ok {content : Option Source.Node} {converted : Option Node}
    (h : convertContent context content run = (.ok converted, run')) :
    (content = none ∧ converted = none ∧ run' = run) ∨
      ∃ s t, content = some s ∧ converted = some t ∧ convertNode context s run = (.ok t, run') := by
  cases content with
  | none =>
    cases h
    exact .inl ⟨rfl, rfl, rfl⟩
  | some s =>
    rw [convertContent_some, Outcome.andThen_eq_ok_iff] at h
    obtain ⟨t, run₁, ht, h⟩ := h
    cases h
    exact .inr ⟨s, t, rfl, rfl, ht⟩

/-- Converted content comes from the content of a template, which `P` relates it to, and from
nowhere else. -/
def ContentFrom (P : Source.Node → Node → Prop) (source : Source.Node) (content : Option Node) :
    Prop :=
  (content = none ∧ (source.isTemplate → source.content? = none)) ∨
    ∃ s t, source.isTemplate ∧ source.content? = some s ∧ content = some t ∧ P s t

theorem convertContent_from {P : Source.Node → Node → Prop} {content : Option Node}
    (h : convertContent context (if source.isTemplate then source.content? else none) run =
      (.ok content, run'))
    (hP : ∀ s t, source.isTemplate → source.content? = some s →
      convertNode context s run = (.ok t, run') → P s t) :
    ContentFrom P source content := by
  rcases convertContent_eq_ok h with ⟨hnone, hcontent, -⟩ | ⟨s, t, hs, hcontent, ht⟩
  · refine .inl ⟨hcontent, fun htemplate => ?_⟩
    rwa [if_pos htemplate] at hnone
  · split at hs
    · next htemplate => exact .inr ⟨s, t, htemplate, hs, hcontent, hP s t htemplate hs ht⟩
    · cases hs

/-- A node is converted once it is entered, its children and its content are converted in this
order, and its rule takes the results. -/
theorem convertNode_eq_ok_iff : convertNode context source run = (.ok result, run') ↔
    ∃ admission children content run₁ run₂,
      Admission.of context source = .ok admission ∧
      convertNodes (context.below source) source.children run = (.ok children, run₁) ∧
      convertContent (context.below source)
        (if source.isTemplate then source.content? else none) run₁ = (.ok content, run₂) ∧
      admission.complete source children content run₂ = (.ok result, run') := by
  rw [convertNode_eq]
  cases ha : Admission.of context source with
  | error failure => simp [Run.halt]
  | ok admission =>
    obtain ⟨-, hcontext, hcontent⟩ := Admission.of_eq_ok ha
    simp only [Outcome.andThen_eq_ok_iff, hcontext, hcontent]
    constructor
    · rintro ⟨children, run₁, hchildren, content, run₂, hc, hcomplete⟩
      exact ⟨admission, children, content, run₁, run₂, rfl, hchildren, hc, hcomplete⟩
    · rintro ⟨_, children, content, run₁, run₂, hadmission, hchildren, hc, hcomplete⟩
      cases hadmission
      exact ⟨children, run₁, hchildren, content, run₂, hc, hcomplete⟩

/-- Along a list of sources and results, what the conversion of a node keeps of the run holds before
each of them. -/
theorem convertNodes_forall₂_of {I : Run → Prop} {R : Source.Node → Node → Prop}
    {sources : List Source.Node} {results : List Node}
    (hkeeps : ∀ s run t run', I run → convertNode context s run = (.ok t, run') → I run')
    (hrun : I run) (h : convertNodes context sources run = (.ok results, run'))
    (hR : ∀ s ∈ sources, ∀ run t run', I run → convertNode context s run = (.ok t, run') → R s t) :
    List.Forall₂ R sources results := by
  induction sources generalizing run results with
  | nil =>
    cases h
    exact .nil
  | cons s rest ih =>
    simp only [convertNodes_cons, Outcome.andThen_eq_ok_iff] at h
    obtain ⟨t, run₁, ht, ts, run₂, hts, hr⟩ := h
    cases hr
    exact .cons (hR s List.mem_cons_self _ _ _ hrun ht)
      (ih (hkeeps s _ _ _ hrun ht) hts fun s hs => hR s (List.mem_cons_of_mem _ hs))

theorem convertNodes_forall₂ {R : Source.Node → Node → Prop} {sources : List Source.Node}
    {results : List Node} (h : convertNodes context sources run = (.ok results, run'))
    (hR : ∀ s ∈ sources, ∀ run t run', convertNode context s run = (.ok t, run') → R s t) :
    List.Forall₂ R sources results :=
  convertNodes_forall₂_of (I := fun _ => True) (fun _ _ _ _ _ _ => trivial) trivial h
    fun s hs run t run' _ => hR s hs run t run'

namespace Run

/-- Writing to the log changes nothing else, and makes no log where there is none. -/
theorem note_eq_ok {channel : Channel} {message : Except Failure String}
    (h : run.note channel message = .ok run') :
    ∃ log, log.isSome = run.log.isSome ∧ run' = { run with log := log } := by
  unfold note at h
  split at h
  · next hlog =>
    cases h
    exact ⟨run.log, rfl, rfl⟩
  · cases h
  · next log message hlog =>
    cases h
    exact ⟨_, by rw [hlog]; rfl, rfl⟩

theorem note_both {run run' : Run} (h : run'.log.isSome = run.log.isSome) (channel : Channel)
    (x : Except Failure String) (f g : String → String) :
    (∃ failure, run.note channel (x.map f) = .error failure ∧
      run'.note channel (x.map g) = .error failure) ∨
    ∃ log log', run.note channel (x.map f) = .ok { run with log := log } ∧
      run'.note channel (x.map g) = .ok { run' with log := log' } ∧
      log'.isSome = log.isSome := by
  obtain ⟨located, index, messages, log⟩ := run
  obtain ⟨located', index', messages', log'⟩ := run'
  cases log with
  | none =>
    cases log' with
    | none => exact .inr ⟨none, none, rfl, rfl, rfl⟩
    | some log' => cases h
  | some log =>
    cases log' with
    | none => cases h
    | some log' =>
      cases x with
      | error failure => exact .inl ⟨failure, rfl, rfl⟩
      | ok s => exact .inr ⟨_, _, rfl, rfl, rfl⟩

theorem record_eq_ok {channel : Channel} {message : Except Failure String} {u : Unit}
    (h : run.record channel message = (.ok u, run')) :
    ∃ log, log.isSome = run.log.isSome ∧ run' = { run with log := log } := by
  unfold record at h
  split at h
  · cases h
  · next hnote =>
    cases h
    exact note_eq_ok hnote

theorem record_isOk_iff {channel : Channel} {x : Except Failure String} {f : String → String} :
    (∃ run', run.record channel (x.map f) = (.ok (), run')) ↔
      (run.log.isSome → ∃ s, x = .ok s) := by
  unfold record note
  cases run.log with
  | none => simp
  | some log => cases x <;> simp [Except.map]

theorem announce_isOk_iff {options : Options File} {tree : Source.Node} :
    (∃ run', run.announce options tree = (.ok (), run')) ↔
      (run.log.isSome → ∃ s, tree.summary = .ok s) := record_isOk_iff

theorem conclude_eq_ok_iff {node : Node} : run.conclude node = (.ok result, run') ↔
    result = node ∧
      run.record .conversion (node.summary.map fun s => s!"Converted {s}") = (.ok (), run') := by
  rw [conclude, Outcome.andThen_eq_ok_iff]
  constructor
  · rintro ⟨_, _, hrecord, h⟩
    cases h
    exact ⟨rfl, hrecord⟩
  · rintro ⟨rfl, hrecord⟩
    exact ⟨(), run', hrecord, rfl⟩

theorem conclude_isOk_iff {node : Node} : (∃ run', run.conclude node = (.ok node, run')) ↔
    (run.log.isSome → ∃ s, node.summary = .ok s) := by
  simp only [conclude_eq_ok_iff, true_and]
  exact record_isOk_iff

/-- A conversion notes the tree, converts it by recursion, and notes the result. -/
theorem convert_eq_ok_iff {options : Options File} {tree : Source.Node} :
    run.convert options tree = (.ok result, run') ↔ ∃ run₁ run₂,
      run.announce options tree = (.ok (), run₁) ∧
      convertNode (Context.ofOptions options) tree run₁ = (.ok result, run₂) ∧
      run₂.conclude result = (.ok result, run') := by
  simp only [convert_eq_convertNode, Outcome.andThen_eq_ok_iff]
  constructor
  · rintro ⟨_, run₁, hannounce, made, run₂, hnode, hconclude⟩
    obtain ⟨rfl, -⟩ := conclude_eq_ok_iff.mp hconclude
    exact ⟨run₁, run₂, hannounce, hnode, hconclude⟩
  · rintro ⟨run₁, run₂, hannounce, hnode, hconclude⟩
    exact ⟨(), run₁, hannounce, result, run₂, hnode, hconclude⟩

/-- A conversion starts unlocated and without an index, and its result is that of the recursion on
the tree. -/
theorem convert_steps {options : Options File} {tree : Source.Node}
    (h : run.convert options tree = (.ok result, run')) :
    ∃ log log' run₂, convertNode (Context.ofOptions options) tree { run.restart with log := log } =
      (.ok result, run₂) ∧ run' = { run₂ with log := log' } := by
  obtain ⟨run₁, run₂, hannounce, hnode, hconclude⟩ := convert_eq_ok_iff.mp h
  obtain ⟨log, -, rfl⟩ := record_eq_ok hannounce
  obtain ⟨log', -, hrun'⟩ := record_eq_ok (conclude_eq_ok_iff.mp hconclude).2
  exact ⟨log, log', run₂, hnode, hrun'⟩

theorem convert_eq_ok {options : Options File} {tree : Source.Node}
    (h : run.convert options tree = (.ok result, run')) :
    ∃ run₁ run₂, convertNode (Context.ofOptions options) tree run₁ = (.ok result, run₂) := by
  obtain ⟨_, _, _, hnode, _⟩ := convert_steps h
  exact ⟨_, _, hnode⟩

end Run

end MarkupTree

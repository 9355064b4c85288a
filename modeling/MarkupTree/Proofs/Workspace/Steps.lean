import MarkupTree.Workspace

namespace MarkupTree

def Step.made? : Step → Option String
  | .converter name _ => some name
  | _ => none

namespace Workspace

def held? (w : Workspace) (name : String) : Option Nat :=
  (Entries.get? name w.converters).map Converter.options

variable {w w' : Workspace} {name other : String} {converter : Converter}

theorem held?_eq_some_iff {n : Nat} :
    w.held? name = some n ↔
      ∃ converter, Entries.get? name w.converters = some converter ∧ converter.options = n :=
  Option.map_eq_some_iff

theorem converters_of_takeOptions {source : OptionsSource} {n : Nat}
    (h : w.takeOptions source = .ok (n, w')) : w'.converters = w.converters := by
  cases source with
  | request request =>
    simp only [takeOptions] at h
    cases hoptions : Options.ofRequest request with
    | error failure =>
      rw [hoptions] at h
      cases h
    | ok options =>
      rw [hoptions] at h
      cases h
      rfl
  | shared name =>
    simp only [takeOptions] at h
    split at h
    · cases h
      rfl
    · cases h

section
variable (w name converter)

theorem converters_store (run : Run) :
    (w.store name converter run).converters = Entries.put name
      { converter with located := run.located, index := run.index } w.converters := by
  unfold store
  dsimp only
  split
  · rfl
  · split <;> rfl

theorem files_store (run : Run) :
    (w.store name converter run).files =
      match (w.options[converter.options]?).bind Options.file with
      | none => w.files
      | some fileName =>
        match Entries.get? fileName w.files with
        | none => w.files
        | some file => Entries.put fileName { file with messages := run.messages } w.files := by
  unfold store
  dsimp only [putConverter]
  cases (w.options[converter.options]?).bind Options.file with
  | none => rfl
  | some fileName =>
    dsimp only
    cases Entries.get? fileName w.files <;> rfl

end

theorem held?_putConverter_of_ne (h : other ≠ name) :
    (w.putConverter other converter).held? name = w.held? name :=
  congrArg _ (Entries.get?_put_of_ne w.converters converter h)

theorem held?_store (h : Entries.get? other w.converters = some converter) (run : Run) :
    (w.store other converter run).held? name = w.held? name := by
  rw [held?, held?, converters_store]
  by_cases hname : other = name
  · subst hname
    rw [Entries.get?_put_self, h]
    rfl
  · rw [Entries.get?_put_of_ne _ _ hname]

theorem converters_onFile (change : File → File) (answer : File → Answer) :
    (w.onFile name change answer).2.converters = w.converters := by
  unfold onFile
  split <;> rfl

theorem held?_onConverter {act : Converter → Answer × Workspace}
    (h : ∀ converter, Entries.get? other w.converters = some converter →
      (act converter).2.held? name = w.held? name) :
    (w.onConverter other act).2.held? name = w.held? name := by
  unfold onConverter
  split
  · exact h _ ‹_›
  · rfl

def answerOf : Outcome Node → Answer
  | (.error failure, _) => .failed failure
  | (.ok node, run) => .converted node run.located

theorem convert_eq (tree : Source.Node) :
    w.convert name converter tree =
      (answerOf ((w.runOf converter).convert (w.optionsAt converter.options) tree),
        w.store name converter
          ((w.runOf converter).convert (w.optionsAt converter.options) tree).2) := by
  unfold convert
  obtain ⟨failure | node, run⟩ :=
    (w.runOf converter).convert (w.optionsAt converter.options) tree <;> rfl

/-- A converter holds on to its options whatever is done, unless its name is given to a new one. -/
theorem held?_execute {step : Step} (h : step.made? ≠ some name) :
    (w.execute step).2.held? name = w.held? name := by
  cases step with
  | share shared source =>
    simp only [execute]
    split
    · rfl
    · next hoptions =>
      rw [held?, held?, ← converters_of_takeOptions hoptions]
  | converter other source =>
    have hother : other ≠ name := fun heq => h (congrArg some heq)
    simp only [execute]
    split
    · rfl
    · next hoptions =>
      rw [held?_putConverter_of_ne hother, held?, held?, converters_of_takeOptions hoptions]
  | convert other tree =>
    refine held?_onConverter fun converter hconverter => ?_
    rw [convert_eq]
    exact held?_store hconverter _
  | state other => exact held?_onConverter fun _ _ => rfl
  | points other offsets =>
    refine held?_onConverter fun converter hconverter => ?_
    rw [points]
    exact held?_store hconverter _
  | assign other change => exact held?_onConverter fun _ _ => rfl
  | message file message => rw [execute, held?, held?, converters_onFile]
  | setText file text => rw [execute, held?, held?, converters_onFile]
  | clear file => rw [execute, held?, held?, converters_onFile]
  | file file => rw [execute, held?, held?, converters_onFile]

theorem held?_executeAll {steps : List Step} (h : ∀ step ∈ steps, step.made? ≠ some name) :
    (w.executeAll steps).2.held? name = w.held? name := by
  induction steps generalizing w with
  | nil => rfl
  | cons step rest ih =>
    obtain ⟨hstep, hrest⟩ := List.forall_mem_cons.mp h
    calc ((w.execute step).2.executeAll rest).2.held? name
      _ = (w.execute step).2.held? name := ih hrest
      _ = w.held? name := held?_execute hstep

end Workspace

end MarkupTree

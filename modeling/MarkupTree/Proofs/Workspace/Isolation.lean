import MarkupTree.Proofs.Conversion.Indifference
import MarkupTree.Proofs.Workspace.Reuse

namespace MarkupTree

def File.withoutMessages (file : File) : File := { file with messages := [] }

def Options.withoutMessages (options : Options File) : Options File :=
  { options with file := options.file.map File.withoutMessages }

def Answer.withoutMessages : Answer → Answer
  | .options shown => .options shown.withoutMessages
  | .state located shown => .state located shown.withoutMessages
  | .file shown => .file shown.withoutMessages
  | answer => answer

def Step.actor? : Step → Option String
  | .convert name _ => some name
  | .state name => some name
  | .points name _ => some name
  | .assign name _ => some name
  | _ => none

/-- A conversion reads the text of its file and not the messages. -/
theorem Context.ofOptions_withoutMessages (options : Options File) :
    Context.ofOptions options.withoutMessages = Context.ofOptions options := by
  simp [Context.ofOptions, Options.withoutMessages, Options.startSpace, Function.comp_def,
    File.withoutMessages]

namespace Workspace

/-- The step is done with a converter that does not hold the options of a number. -/
def isForeign (n : Nat) (w : Workspace) (step : Step) : Bool :=
  step.actor?.any fun name => w.held? name != some n

/-- The steps without those that are foreign when their turn comes. -/
def withoutForeign (n : Nat) (w : Workspace) : List Step → List Step
  | [] => []
  | step :: rest =>
    let left := (w.execute step).2.withoutForeign n rest
    if w.isForeign n step then left else step :: left

def answersTo (name : String) (w : Workspace) (steps : List Step) : List Answer :=
  ((steps.zip (w.executeAll steps).1).filter fun p => p.1.actor? == some name).map Prod.snd

/-- Two workspaces that converters with the options of a number cannot tell apart: these options,
the state of these converters, and the texts of all files are the same, and so is which converter
holds which options. -/
structure AgreeOn (n : Nat) (w w' : Workspace) : Prop where
  files : ∀ name, (Entries.get? name w'.files).map File.withoutMessages =
    (Entries.get? name w.files).map File.withoutMessages
  size : w'.options.size = w.options.size
  options : w'.options[n]? = w.options[n]?
  shared : w'.shared = w.shared
  held : ∀ name, w'.held? name = w.held? name
  converters : ∀ name, w.held? name = some n →
    Entries.get? name w'.converters = Entries.get? name w.converters

variable {n : Nat} {w w' w'' : Workspace} {name other : String} {converter converter' : Converter}

theorem answersTo_cons (name : String) (w : Workspace) (step : Step) (rest : List Step) :
    w.answersTo name (step :: rest) =
      if step.actor? = some name then (w.execute step).1 :: (w.execute step).2.answersTo name rest
      else (w.execute step).2.answersTo name rest := by
  by_cases h : step.actor? = some name <;> simp [answersTo, executeAll, h]

theorem held?_of_get? (h : Entries.get? name w.converters = some converter) :
    w.held? name = some converter.options :=
  held?_eq_some_iff.mpr ⟨converter, h, rfl⟩

section
variable (w name converter)

theorem options_store (run : Run) : (w.store name converter run).options = w.options := by
  unfold store
  dsimp only
  split
  · rfl
  · split <;> rfl

theorem shared_store (run : Run) : (w.store name converter run).shared = w.shared := by
  unfold store
  dsimp only
  split
  · rfl
  · split <;> rfl

theorem files_store_withoutMessages (run : Run) (file : String) :
    (Entries.get? file (w.store name converter run).files).map File.withoutMessages =
      (Entries.get? file w.files).map File.withoutMessages := by
  rw [files_store]
  split
  · rfl
  · next own hown =>
    split
    · rfl
    · next content hcontent =>
      by_cases h : own = file
      · subst h
        rw [Entries.get?_put_self, hcontent]
        rfl
      · rw [Entries.get?_put_of_ne _ _ h]

end

namespace AgreeOn

theorem refl (n : Nat) (w : Workspace) : AgreeOn n w w :=
  ⟨fun _ => rfl, rfl, rfl, rfl, fun _ => rfl, fun _ _ => rfl⟩

theorem symm (h : AgreeOn n w w') : AgreeOn n w' w where
  files file := (h.files file).symm
  size := h.size.symm
  options := h.options.symm
  shared := h.shared.symm
  held name := (h.held name).symm
  converters name hname := (h.converters name ((h.held name).symm.trans hname)).symm

theorem trans (h : AgreeOn n w w') (h' : AgreeOn n w' w'') : AgreeOn n w w'' where
  files file := (h'.files file).trans (h.files file)
  size := h'.size.trans h.size
  options := h'.options.trans h.options
  shared := h'.shared.trans h.shared
  held name := (h'.held name).trans (h.held name)
  converters name hname :=
    (h'.converters name ((h.held name).trans hname)).trans (h.converters name hname)

theorem optionsAt (h : AgreeOn n w w') :
    (w'.optionsAt n).withoutMessages = (w.optionsAt n).withoutMessages := by
  simp only [Workspace.optionsAt, Options.withoutMessages, h.options, Option.map_bind,
    Function.comp_def, h.files]

theorem ofOptions (h : AgreeOn n w w') :
    Context.ofOptions (w'.optionsAt n) = Context.ofOptions (w.optionsAt n) := by
  rw [← Context.ofOptions_withoutMessages, h.optionsAt, Context.ofOptions_withoutMessages]

theorem store_of_ne (hconverter : Entries.get? other w.converters = some converter)
    (hne : converter.options ≠ n) (run : Run) : AgreeOn n w (w.store other converter run) where
  files := files_store_withoutMessages w other converter run
  size := by rw [options_store]
  options := by rw [options_store]
  shared := shared_store w other converter run
  held name := held?_store hconverter run
  converters name hname := by
    have hother : other ≠ name := by
      rintro rfl
      exact hne (Option.some.inj ((held?_of_get? hconverter).symm.trans hname))
    rw [converters_store, Entries.get?_put_of_ne _ _ hother]

theorem store (h : AgreeOn n w w') (hconverter : Entries.get? name w.converters = some converter)
    (hconverter' : Entries.get? name w'.converters = some converter) {run run' : Run}
    (hrun : run.Alike run') :
    AgreeOn n (w.store name converter run) (w'.store name converter run') where
  files file := by rw [files_store_withoutMessages, files_store_withoutMessages, h.files]
  size := by rw [options_store, options_store, h.size]
  options := by rw [options_store, options_store, h.options]
  shared := by rw [shared_store, shared_store, h.shared]
  held other := by rw [held?_store hconverter, held?_store hconverter', h.held]
  converters other hother := by
    rw [held?_store hconverter] at hother
    rw [converters_store, converters_store, hrun.located, hrun.index]
    by_cases hname : name = other
    · subst hname
      rw [Entries.get?_put_self, Entries.get?_put_self]
    · rw [Entries.get?_put_of_ne _ _ hname, Entries.get?_put_of_ne _ _ hname,
        h.converters other hother]

theorem putConverter (h : AgreeOn n w w') (name : String) (converter : Converter) :
    AgreeOn n (w.putConverter name converter) (w'.putConverter name converter) where
  files := h.files
  size := h.size
  options := h.options
  shared := h.shared
  held other := by
    by_cases hname : name = other
    · subst hname
      simp only [held?, Workspace.putConverter, Entries.get?_put_self]
    · rw [held?_putConverter_of_ne hname, held?_putConverter_of_ne hname, h.held]
  converters other hother := by
    simp only [Workspace.putConverter]
    by_cases hname : name = other
    · subst hname
      rw [Entries.get?_put_self, Entries.get?_put_self]
    · rw [held?_putConverter_of_ne hname] at hother
      rw [Entries.get?_put_of_ne _ _ hname, Entries.get?_put_of_ne _ _ hname,
        h.converters other hother]

theorem takeOptions (h : AgreeOn n w w') (source : OptionsSource) :
    (∃ failure, w.takeOptions source = .error failure ∧ w'.takeOptions source = .error failure) ∨
    ∃ m v v', w.takeOptions source = .ok (m, v) ∧ w'.takeOptions source = .ok (m, v') ∧
      AgreeOn n v v' := by
  cases source with
  | request request =>
    simp only [Workspace.takeOptions]
    cases Options.ofRequest request with
    | error failure => exact .inl ⟨failure, rfl, rfl⟩
    | ok options =>
      rw [h.size]
      refine .inr ⟨w.options.size, _, _, rfl, rfl, h.files, ?_, ?_, h.shared, h.held,
        h.converters⟩
      · simp [h.size]
      · simp only [Array.getElem?_push, h.size, h.options]
  | shared name =>
    simp only [Workspace.takeOptions, h.shared]
    cases Entries.get? name w.shared with
    | none => exact .inl ⟨_, rfl, rfl⟩
    | some m => exact .inr ⟨m, w, w', rfl, rfl, h⟩

theorem onFile (h : AgreeOn n w w') (name : String) {change : File → File}
    (hchange : ∀ file file' : File, file'.withoutMessages = file.withoutMessages →
      (change file').withoutMessages = (change file).withoutMessages) (answer : File → Answer) :
    AgreeOn n (w.onFile name change answer).2 (w'.onFile name change answer).2 := by
  have hname := h.files name
  unfold Workspace.onFile
  cases hfile : Entries.get? name w.files with
  | none =>
    rw [hfile, Option.map_none, Option.map_eq_none_iff] at hname
    rw [hname]
    exact h
  | some file =>
    rw [hfile, Option.map_some, Option.map_eq_some_iff] at hname
    obtain ⟨file', hfile', hsame⟩ := hname
    rw [hfile']
    refine ⟨fun other => ?_, h.size, h.options, h.shared, h.held, h.converters⟩
    dsimp only [putFile]
    by_cases hother : name = other
    · subst hother
      rw [Entries.get?_put_self, Entries.get?_put_self, Option.map_some, Option.map_some,
        hchange file file' hsame]
    · rw [Entries.get?_put_of_ne _ _ hother, Entries.get?_put_of_ne _ _ hother, h.files]

end AgreeOn

theorem answerOf_congr {o o' : Outcome Node} (h : o.Maps id Run.Alike o') :
    answerOf o' = answerOf o := by
  obtain ⟨x, run⟩ := o
  obtain ⟨x', run'⟩ := o'
  have hresult : x' = x := by simpa using h.result
  subst hresult
  cases x' with
  | error failure => rfl
  | ok node => exact congrArg (Answer.converted node) h.run.located

/-- A foreign step changes nothing that converters with the options can see. -/
theorem AgreeOn.execute_foreign {step : Step} (h : w.isForeign n step) :
    AgreeOn n w (w.execute step).2 := by
  have hact {other : String} {act : Converter → Answer × Workspace}
      (hact : ∀ converter, Entries.get? other w.converters = some converter →
        AgreeOn n w (act converter).2) : AgreeOn n w (w.onConverter other act).2 := by
    unfold onConverter
    split
    · exact hact _ ‹_›
    · exact .refl n w
  have hne {other : String} {converter : Converter} (hother : (w.held? other != some n) = true)
      (hconverter : Entries.get? other w.converters = some converter) : converter.options ≠ n := by
    rw [held?_of_get? hconverter] at hother
    simpa using hother
  cases step with
  | convert other tree =>
    apply hact
    intro converter hconverter
    rw [convert_eq]
    exact .store_of_ne hconverter (hne h hconverter) _
  | state other => exact hact fun _ _ => .refl n w
  | points other offsets =>
    apply hact
    intro converter hconverter
    exact .store_of_ne hconverter (hne h hconverter) _
  | assign other change =>
    apply hact
    intro converter hconverter
    refine ⟨fun _ => rfl, by simp, ?_, rfl, fun _ => rfl, fun _ _ => rfl⟩
    simp [Array.getElem?_modify, hne h hconverter]
  | _ => cases h

/-- A step of a converter that holds the options gets the same answer in both workspaces, and is
seen to do the same. -/
theorem AgreeOn.execute_own (h : AgreeOn n w w') {step : Step} (hactor : step.actor? = some name)
    (hheld : w.held? name = some n) :
    (w'.execute step).1.withoutMessages = (w.execute step).1.withoutMessages ∧
      AgreeOn n (w.execute step).2 (w'.execute step).2 := by
  obtain ⟨converter, hconverter, rfl⟩ := held?_eq_some_iff.mp hheld
  have hconverter' := (h.converters name hheld).trans hconverter
  cases step with
  | convert _ tree =>
    cases hactor
    have hcontext : ∃ space, Context.ofOptions (w'.optionsAt converter.options) =
        (Context.ofOptions (w.optionsAt converter.options)).inSpace space := ⟨_, h.ofOptions⟩
    have hlog : (w'.runOf converter).log.isSome = (w.runOf converter).log.isSome := rfl
    have hruns := Run.convert_alike hlog hcontext tree
    rw [execute_convert hconverter, execute_convert hconverter', convert_eq, convert_eq]
    exact ⟨congrArg Answer.withoutMessages (answerOf_congr hruns),
      h.store hconverter hconverter' hruns.run⟩
  | state _ =>
    cases hactor
    simp only [execute, onConverter, hconverter, hconverter', Answer.withoutMessages, h.optionsAt]
    exact ⟨trivial, h⟩
  | points _ offsets =>
    cases hactor
    have htext := congrArg Context.text h.ofOptions
    have hruns : (w.runOf converter).Alike (w'.runOf converter) := ⟨rfl, rfl, rfl⟩
    obtain ⟨hindex, halike⟩ :=
      hruns.lineIndex ((w.optionsAt converter.options).file.map File.text)
    simp only [Context.ofOptions] at htext
    simp only [execute, onConverter, hconverter, hconverter', points, htext, hindex]
    exact ⟨trivial, h.store hconverter hconverter' halike⟩
  | assign _ change =>
    cases hactor
    have hafter : AgreeOn converter.options
        { w with options := w.options.modify converter.options (·.assign change) }
        { w' with options := w'.options.modify converter.options (·.assign change) } := by
      refine ⟨h.files, by simp [h.size], ?_, h.shared, h.held, h.converters⟩
      simp only [Array.getElem?_modify, h.options]
    simp only [execute, onConverter, hconverter, hconverter', Answer.withoutMessages,
      hafter.optionsAt]
    exact ⟨trivial, hafter⟩
  | _ => cases hactor

/-- A step that is done with no converter does the same in both workspaces. -/
theorem AgreeOn.execute_common (h : AgreeOn n w w') {step : Step} (hactor : step.actor? = none) :
    AgreeOn n (w.execute step).2 (w'.execute step).2 := by
  cases step with
  | share shared source =>
    simp only [execute]
    obtain ⟨failure, hw, hw'⟩ | ⟨m, v, v', hw, hw', hv⟩ := h.takeOptions source
    · rw [hw, hw']
      exact h
    · rw [hw, hw']
      exact ⟨hv.files, hv.size, hv.options, congrArg (Entries.put shared m) hv.shared, hv.held,
        hv.converters⟩
  | converter other source =>
    simp only [execute]
    obtain ⟨failure, hw, hw'⟩ | ⟨m, v, v', hw, hw', hv⟩ := h.takeOptions source
    · rw [hw, hw']
      exact h
    · rw [hw, hw']
      exact hv.putConverter other _
  | message file message =>
    apply h.onFile
    intro file file' hsame
    exact hsame
  | setText file text =>
    apply h.onFile
    intro file file' hsame
    exact congrArg (fun f : File => { f with text := text }) hsame
  | clear file =>
    apply h.onFile
    intro file file' hsame
    exact hsame
  | file file =>
    apply h.onFile
    intro file file' hsame
    exact hsame
  | _ => cases hactor

/-- One converter gets the same answers in two workspaces that it cannot tell apart, whether or not
foreign steps are done in the second one. -/
theorem AgreeOn.answersTo (h : AgreeOn n w w') (hheld : w.held? name = some n) {steps : List Step}
    (hsteps : ∀ step ∈ steps, step.made? ≠ some name) :
    (w'.answersTo name (w.withoutForeign n steps)).map Answer.withoutMessages =
      (w.answersTo name steps).map Answer.withoutMessages := by
  induction steps generalizing w w' with
  | nil => rfl
  | cons step rest ih =>
    obtain ⟨hstep, hrest⟩ := List.forall_mem_cons.mp hsteps
    have hheld' : (w.execute step).2.held? name = some n := (held?_execute hstep).trans hheld
    rw [withoutForeign, answersTo_cons name w]
    by_cases hforeign : w.isForeign n step
    · have hactor : step.actor? ≠ some name := by
        intro hactor
        simp [isForeign, hactor, hheld] at hforeign
      rw [if_pos hforeign, if_neg hactor]
      exact ih ((execute_foreign hforeign).symm.trans h) hheld' hrest
    · rw [if_neg hforeign, answersTo_cons name w']
      cases hactor : step.actor? with
      | none =>
        rw [if_neg nofun, if_neg nofun]
        exact ih (h.execute_common hactor) hheld' hrest
      | some other =>
        have hother : w.held? other = some n := by simpa [isForeign, hactor] using hforeign
        obtain ⟨hanswer, hafter⟩ := h.execute_own hactor hother
        have hlater := ih hafter hheld' hrest
        split
        · rw [List.map_cons, List.map_cons, hanswer, hlater]
        · exact hlater

/-- Converters do not interfere: without the steps of all converters that hold other options, one
converter gets the same answers but for the messages of files that they show, whichever files the
others work on and whether their steps fail or not. -/
theorem answersTo_withoutForeign (hheld : w.held? name = some n) {steps : List Step}
    (hsteps : ∀ step ∈ steps, step.made? ≠ some name) :
    (w.answersTo name (w.withoutForeign n steps)).map Answer.withoutMessages =
      (w.answersTo name steps).map Answer.withoutMessages :=
  (AgreeOn.refl n w).answersTo hheld hsteps

def office : Workspace where
  files := [("letter", .ofText "<p>a" none)]
  options := #[⟨.string "html", some "letter", .bool true⟩,
    ⟨.string "svg", some "letter", .bool false⟩]
  shared := []
  converters := [("clerk", .new 0), ("guest", .new 1)]

def crowdedDay : List Step :=
  [.points "clerk" [some 2],
    .convert "guest" (.bare "document" none none [greeting, .bare "stamp" none none [] none] none),
    .setText "letter" "b\nc", .points "guest" [some 2], .assign "guest" (.file none),
    .points "clerk" [some 2], .convert "clerk" card, .points "clerk" [some 2]]

def quietDay : List Step :=
  [.points "clerk" [some 2], .setText "letter" "b\nc", .points "clerk" [some 2],
    .convert "clerk" card, .points "clerk" [some 2]]

theorem withoutForeign_crowdedDay : office.withoutForeign 0 crowdedDay = quietDay := by
  simp only [crowdedDay, withoutForeign, execute, onConverter, office, convert_eq,
    Run.convert_eq_convertNode]
  rfl

def clerkAnswers : List Answer :=
  let old := LineIndex.ofText "<p>a"
  let new := LineIndex.ofText "b\nc"
  [.points old.length [old.toPoint (some 2)], .points old.length [old.toPoint (some 2)],
    .converted (.root (some new.whole) false
      [.literal (some ⟨some ⟨some 1, some 4, some 3⟩, some ⟨some 1, some 5, some 4⟩⟩) .text
        (.string "a")]) true,
    .points new.length [new.toPoint (some 2)]]

theorem answersTo_quietDay : office.answersTo "clerk" quietDay = clerkAnswers := by
  simp only [quietDay, answersTo, executeAll, execute, onConverter, office, convert_eq,
    Run.convert_eq_convertNode]
  rfl

theorem answersTo_withoutForeign_crowdedDay :
    office.held? "clerk" = some 0 ∧
      (∀ step ∈ crowdedDay, step.made? ≠ some "clerk") ∧
      office.withoutForeign 0 crowdedDay = quietDay ∧
      (office.answersTo "clerk" crowdedDay).map Answer.withoutMessages = clerkAnswers := by
  have hheld : office.held? "clerk" = some 0 := rfl
  have hday : ∀ step ∈ crowdedDay, step.made? ≠ some "clerk" := by
    simp [crowdedDay, Step.made?]
  have hsame := answersTo_withoutForeign hheld hday
  rw [withoutForeign_crowdedDay, answersTo_quietDay] at hsame
  exact ⟨hheld, hday, withoutForeign_crowdedDay, hsame.symm⟩

end Workspace

end MarkupTree

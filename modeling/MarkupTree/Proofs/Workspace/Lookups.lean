import MarkupTree.Proofs.Conversion.Lookups
import MarkupTree.Proofs.Workspace.Reuse

namespace MarkupTree

namespace Workspace

def kept (w : Workspace) (name : String) : Option LineIndex :=
  (Entries.get? name w.converters).bind Converter.index

/-- The lookup of a request for points, in the text that the file of the converter holds then. -/
def pointsLookup (w : Workspace) (name : String) (converter : Converter)
    (offsets : List (Option Int)) : Lookup :=
  (w.runOf converter).lookup ((w.optionsAt converter.options).file.map File.text)
    (.points offsets (w.execute (.points name offsets)).1)

def converterEvents (w : Workspace) (watched name : String)
    (events : Converter → List IndexEvent) : List IndexEvent :=
  if name = watched then
    match Entries.get? name w.converters with
    | none => []
    | some converter => events converter
  else []

/-- What a step does to the line index of the converter that is watched. Only making it, its
conversions and its requests for points do anything. -/
def events (watched : String) (w : Workspace) : Step → List IndexEvent
  | .converter name source =>
    if name = watched then
      match w.takeOptions source with
      | .error _ => []
      | .ok _ => [.start]
    else []
  | .convert name tree =>
    w.converterEvents watched name fun converter =>
      .start :: ((w.runOf converter).lookups (w.optionsAt converter.options) tree).map .lookup
  | .points name offsets =>
    w.converterEvents watched name fun converter =>
      [.lookup (w.pointsLookup name converter offsets)]
  | _ => []

def allEvents (watched : String) (w : Workspace) : List Step → List IndexEvent
  | [] => []
  | step :: rest => w.events watched step ++ (w.execute step).2.allEvents watched rest

variable {w w' : Workspace} {name watched : String} {converter : Converter}

theorem kept_of_converters (h : w'.converters = w.converters) :
    w'.kept watched = w.kept watched := by
  rw [kept, kept, h]

theorem kept_putConverter_self : (w.putConverter name converter).kept name = converter.index := by
  rw [kept, putConverter, Entries.get?_put_self]
  rfl

theorem kept_putConverter_of_ne (h : name ≠ watched) :
    (w.putConverter name converter).kept watched = w.kept watched := by
  rw [kept, kept, putConverter, Entries.get?_put_of_ne _ _ h]

theorem kept_store_self (run : Run) : (w.store name converter run).kept name = run.index := by
  rw [kept, converters_store, Entries.get?_put_self]
  rfl

theorem kept_store_of_ne (h : name ≠ watched) (run : Run) :
    (w.store name converter run).kept watched = w.kept watched := by
  rw [kept, kept, converters_store, Entries.get?_put_of_ne _ _ h]

theorem kept_onFile (change : File → File) (answer : File → Answer) :
    (w.onFile name change answer).2.kept watched = w.kept watched :=
  kept_of_converters (converters_onFile change answer)

/-- What is done with a converter is seen in its own index only. -/
theorem served_onConverter {act : Converter → Answer × Workspace}
    {events : Converter → List IndexEvent}
    (hact : ∀ converter, Entries.get? name w.converters = some converter →
      ∃ run, (act converter).2 = w.store name converter run ∧
        Served converter.index (events converter) run.index) :
    Served (w.kept watched) (w.converterEvents watched name events)
      ((w.onConverter name act).2.kept watched) := by
  unfold converterEvents onConverter
  cases hconverter : Entries.get? name w.converters with
  | none =>
    rw [ite_self]
    exact .nil
  | some converter =>
    obtain ⟨run, hstore, hserved⟩ := hact converter hconverter
    dsimp only
    rw [hstore]
    split
    · next hname =>
      subst hname
      rw [kept_store_self, kept, hconverter]
      exact hserved
    · next hname =>
      rw [kept_store_of_ne hname]
      exact .nil

theorem served_converter (source : OptionsSource) :
    Served (w.kept watched) (w.events watched (.converter name source))
      ((w.execute (.converter name source)).2.kept watched) := by
  simp only [events, execute]
  cases htake : w.takeOptions source with
  | error failure =>
    rw [ite_self]
    exact .nil
  | ok taken =>
    obtain ⟨n, w'⟩ := taken
    dsimp only
    split
    · next hname =>
      rw [hname, kept_putConverter_self]
      exact .start .nil
    · next hname =>
      rw [kept_putConverter_of_ne hname, kept_of_converters (converters_of_takeOptions htake)]
      exact .nil

/-- A step serves its events, and all other steps leave what is kept. -/
theorem served_execute (step : Step) :
    Served (w.kept watched) (w.events watched step) ((w.execute step).2.kept watched) := by
  cases step with
  | converter name source => exact served_converter source
  | convert name tree =>
    refine served_onConverter fun converter _ => ?_
    rw [convert_eq]
    exact ⟨_, rfl, (w.runOf converter).served_convert _ tree⟩
  | points name offsets =>
    refine served_onConverter fun converter hconverter => ?_
    have hanswer : (w.execute (.points name offsets)).1 =
        (w.points name converter offsets).1 := by
      simp only [execute, onConverter, hconverter]
    exact ⟨_, rfl, (w.runOf converter).served_lookup _ hanswer⟩
  | share shared source =>
    have hkept : (w.execute (.share shared source)).2.kept watched = w.kept watched := by
      simp only [execute]
      split
      · rfl
      · next hoptions => rw [kept, kept, ← converters_of_takeOptions hoptions]
    rw [hkept]
    exact .nil
  | state name | assign name change =>
    simp only [execute, onConverter]
    split <;> exact .nil
  | message file message | setText file text | clear file | file file =>
    rw [execute, kept_onFile]
    exact .nil

/-- The events of a whole list of steps are served one after the other. -/
theorem served_executeAll (watched : String) (w : Workspace) (steps : List Step) :
    Served (w.kept watched) (w.allEvents watched steps)
      ((w.executeAll steps).2.kept watched) := by
  induction steps generalizing w with
  | nil => exact .nil
  | cons step rest ih => exact (served_execute step).append (ih (w.execute step).2)

/-- Between two starts, all lookups of a converter use one index: that of the text which the file
held at the first of them, which finds nothing kept. -/
theorem lookups_between_starts {steps : List Step} {earlier later : List IndexEvent}
    {first : Lookup} {rest : List Lookup}
    (h : w.allEvents watched steps =
      earlier ++ .start :: ((first :: rest).map .lookup ++ later)) :
    first.cached = none ∧ first.index = .ofText (first.text.getD "None") ∧
      first.shown.By first.index ∧
      ∀ l ∈ rest, l.cached = some first.index ∧ l.index = first.index ∧
        l.shown.By first.index := by
  have hserved := w.served_executeAll watched steps
  rw [h] at hserved
  obtain ⟨_, -, hstart⟩ := hserved.of_append
  cases hstart with
  | start hafter =>
    obtain ⟨_, hlookups, -⟩ := hafter.of_append
    cases hlookups with
    | lookup hindex hshown hrest =>
      subst hindex
      exact ⟨rfl, rfl, hshown, hrest.eq_of_kept⟩

def pasted : Source.Node := .bare "document" none none
  [.bare "fragment" none none [greeting] none, .bare "stamp" none none [] none] none

def changingDay : List Step :=
  [.points "clerk" [some 2], .setText "letter" "b\nc", .convert "clerk" pasted,
    .setText "letter" "d", .points "clerk" [some 2], .assign "clerk" (.file none),
    .points "clerk" [some 2]]

def oldLookup : Lookup :=
  let old := LineIndex.ofText "<p>a"
  ⟨some "<p>a", none, old, .points [some 2] (.points old.length [old.toPoint (some 2)])⟩

def rootLookup : Lookup :=
  let new := LineIndex.ofText "b\nc"
  ⟨some "b\nc", none, new, .extent (some new.whole)⟩

def laterLookups : List Lookup :=
  let new := LineIndex.ofText "b\nc"
  let answer := Answer.points new.length [new.toPoint (some 2)]
  [⟨some "d", some new, new, .points [some 2] answer⟩,
    ⟨none, some new, new, .points [some 2] answer⟩]

/-- The conversion serves one lookup in five steps: it enters the three nodes that it knows,
completes two of them, and fails at the next node. -/
theorem events_pasted :
    (desk.executeAll (changingDay.take 2)).2.events "clerk" (.convert "clerk" pasted) =
      [.start, .lookup rootLookup] := by
  change IndexEvent.start :: List.map _ (List.flatMap _ (moments _ _ _)) = _
  rw [moments_of_running rfl, moments_of_running rfl, moments_of_running rfl,
    moments_of_running rfl, moments_of_finished rfl]
  rfl

theorem allEvents_changingDay :
    desk.allEvents "clerk" changingDay =
      [.lookup oldLookup] ++ .start :: ((rootLookup :: laterLookups).map .lookup ++ []) := by
  change _ ++ (_ ++ ((desk.executeAll (changingDay.take 2)).2.events "clerk"
    (.convert "clerk" pasted) ++ _)) = _
  rw [events_pasted]
  simp only [execute, onConverter, desk, convert_eq, Run.convert_eq_convertNode]
  rfl

theorem lookups_between_starts_changingDay :
    desk.allEvents "clerk" changingDay =
        [.lookup oldLookup] ++ .start :: ((rootLookup :: laterLookups).map .lookup ++ []) ∧
      rootLookup.cached = none ∧ rootLookup.index = .ofText "b\nc" ∧
      rootLookup.shown.By rootLookup.index ∧
      ∀ l ∈ laterLookups, l.cached = some rootLookup.index ∧ l.index = rootLookup.index ∧
        l.shown.By rootLookup.index :=
  ⟨allEvents_changingDay, lookups_between_starts allEvents_changingDay⟩

end Workspace

end MarkupTree

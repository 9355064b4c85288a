import MarkupTree.Proofs.Conversion.Locating
import MarkupTree.Proofs.Conversion.Survival
import MarkupTree.Proofs.Workspace.Steps

namespace MarkupTree

def Converter.new (n : Nat) : Converter := ⟨n, false, none⟩

/-- What an earlier conversion left behind does not matter to the next one. -/
theorem Run.convert_congr {run run' : Run} (h : run.restart = run'.restart)
    (options : Options File) (tree : Source.Node) :
    run.convert options tree = run'.convert options tree := by
  simp only [Run.convert_eq, Run.announce, h]

namespace Workspace
variable {w : Workspace} {name : String} {converter : Converter}

theorem execute_converter_shared {shared : String} {n : Nat}
    (h : Entries.get? shared w.shared = some n) :
    w.execute (.converter name (.shared shared)) =
      (.options (w.optionsAt n), w.putConverter name (.new n)) := by
  simp only [execute, takeOptions, h]
  rfl

theorem execute_convert (h : Entries.get? name w.converters = some converter)
    (tree : Source.Node) :
    w.execute (.convert name tree) = w.convert name converter tree := by
  simp only [execute, onConverter, h]

/-- A converter converts as a new one with its options does, however it was used before. -/
theorem runOf_convert (w : Workspace) (converter : Converter) (tree : Source.Node) :
    (w.runOf converter).convert (w.optionsAt converter.options) tree =
      (w.runOf (.new converter.options)).convert (w.optionsAt converter.options) tree :=
  Run.convert_congr rfl _ tree

/-- A converter behaves as a new one with the same options after any steps that do not replace it:
both give the same answer with the same messages in all files, and are left in the same state. -/
theorem reused_converter_eq_new (h : Entries.get? name w.converters = some converter)
    {history : List Step} (hhistory : ∀ step ∈ history, step.made? ≠ some name)
    (tree : Source.Node) (other : String) :
    let reused := (w.executeAll history).2
    let renewed := reused.putConverter other (.new converter.options)
    (reused.execute (.convert name tree)).1 = (renewed.execute (.convert other tree)).1 ∧
      (reused.execute (.convert name tree)).2.files =
        (renewed.execute (.convert other tree)).2.files ∧
      ∃ left, Entries.get? name (reused.execute (.convert name tree)).2.converters = some left ∧
        Entries.get? other (renewed.execute (.convert other tree)).2.converters = some left := by
  intro reused renewed
  have hheld : reused.held? name = some converter.options :=
    (held?_executeAll hhistory).trans (held?_eq_some_iff.mpr ⟨converter, h, rfl⟩)
  obtain ⟨used, hused, hoptions⟩ := held?_eq_some_iff.mp hheld
  have hnew : Entries.get? other renewed.converters = some (.new converter.options) :=
    Entries.get?_put_self _ _ _
  rw [execute_convert hused, execute_convert hnew, convert_eq, convert_eq, runOf_convert, hoptions]
  -- A new converter is in no file and in no options, so both conversions start from one run.
  have hrun : renewed.runOf (.new converter.options) = reused.runOf (.new converter.options) := rfl
  have hstart : renewed.optionsAt (Converter.new converter.options).options =
    reused.optionsAt converter.options := rfl
  rw [hrun, hstart]
  refine ⟨rfl, ?_, ?_⟩
  · rw [files_store, files_store, hoptions]
    rfl
  · rw [converters_store, converters_store, Entries.get?_put_self, Entries.get?_put_self, hoptions]
    exact ⟨_, rfl, rfl⟩

def desk : Workspace where
  files := [("letter", .ofText "<p>a" none)]
  options := #[⟨.string "html", some "letter", .bool true⟩]
  shared := [("mail", 0)]
  converters := [("clerk", .new 0)]

def greeting : Source.Node :=
  (Source.Node.bare "text" "a" none [] none).atLocation
    ⟨⟨⟨some 1, some 4, some 3⟩, ⟨some 1, some 5, some 4⟩⟩, none, none, []⟩

def card : Source.Node := .bare "document" none none [greeting] none

/-- The conversion fails when it has placed a text already, and the text of the file is replaced
after it was indexed. -/
def badDay : List Step :=
  [.convert "clerk" (.bare "document" none none [greeting, .bare "stamp" none none [] none] none),
    .points "clerk" [some 0], .setText "letter" "b\nc", .assign "clerk" (.verbose .null)]

theorem state_after_badDay :
    (Entries.get? "clerk" (desk.executeAll badDay).2.converters).map Converter.located =
        some true ∧
      Entries.get? "mail" (desk.executeAll badDay).2.shared = some 0 := by
  simp only [badDay, executeAll, execute, onConverter, desk, convert_eq, Run.convert_eq_convertNode]
  exact ⟨rfl, rfl⟩

theorem convert_after_badDay :
    ((desk.executeAll badDay).2.execute (.convert "clerk" card)).1 =
      .converted (.root (some (LineIndex.ofText "b\nc").whole) false
        [.literal (some ⟨some ⟨some 1, some 4, some 3⟩, some ⟨some 1, some 5, some 4⟩⟩) .text
          (.string "a")]) true := by
  simp only [badDay, executeAll, execute, onConverter, desk, convert_eq, Run.convert_eq_convertNode]
  rfl

theorem reused_converter_eq_new_badDay :
    Entries.get? "clerk" desk.converters = some (.new 0) ∧
      (∀ step ∈ badDay, step.made? ≠ some "clerk") ∧
      (((desk.executeAll badDay).2.execute (.converter "next" (.shared "mail"))).2.execute
          (.convert "next" card)).1 =
        .converted (.root (some (LineIndex.ofText "b\nc").whole) false
          [.literal (some ⟨some ⟨some 1, some 4, some 3⟩, some ⟨some 1, some 5, some 4⟩⟩) .text
            (.string "a")]) true := by
  have hclerk : Entries.get? "clerk" desk.converters = some (.new 0) := rfl
  have hday : ∀ step ∈ badDay, step.made? ≠ some "clerk" := by simp [badDay, Step.made?]
  have hmail := state_after_badDay.2
  refine ⟨hclerk, hday, ?_⟩
  rw [execute_converter_shared hmail]
  have hsame := (reused_converter_eq_new hclerk hday card "next").1
  exact hsame.symm.trans convert_after_badDay

end Workspace

end MarkupTree

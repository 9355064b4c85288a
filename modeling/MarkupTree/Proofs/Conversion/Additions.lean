import MarkupTree.Proofs.Conversion.Stripping
import MarkupTree.Proofs.Conversion.Soundness

namespace MarkupTree

variable {run run₁ : Run} {options : Options File}

/-- Without a file a conversion fails as it does with one, or it converts to the same tree without
positions. -/
theorem Run.convert_without_file (hlog : run₁.log.isSome = run.log.isSome) (tree : Source.Node)
    (verbose : Value) :
    (run₁.convert { options with file := none, verbose := verbose } tree).1 =
      (run.convert options tree).1.map Node.withoutPositions := by
  have hruns : run.restart.Strips false run₁.restart := ⟨hlog, nofun⟩
  have hcontext : (Context.ofOptions options).Strips false
      (Context.ofOptions { options with file := none, verbose := verbose }) := ⟨rfl, rfl, nofun⟩
  exact (Run.convert_strip hruns hcontext tree).result

/-- A conversion that places no tags ends in the same run, with the same tree but for the positions
of tags. -/
theorem Run.convert_without_verbose (run : Run) (tree : Source.Node) {verbose : Value}
    (h : verbose.truthy = false) :
    (run.convert { options with verbose := verbose } tree).1 =
        (run.convert options tree).1.map Node.withoutTagPositions ∧
      (run.convert { options with verbose := verbose } tree).2 = (run.convert options tree).2 := by
  have hruns : run.restart.Strips true run.restart := ⟨rfl, fun _ => rfl⟩
  have hcontext : (Context.ofOptions options).Strips true
      (Context.ofOptions { options with verbose := verbose }) := ⟨rfl, rfl, fun _ => h⟩
  have hmaps := Run.convert_strip hruns hcontext tree
  exact ⟨hmaps.result, hmaps.run.eq rfl⟩

/-- A file and verbose mode only add positions. Without the file the conversion fails alike or gives
the same tree with no position anywhere, and without verbose mode it ends in the same run with the
same tree but for the positions of tags. -/
theorem convert_adds_positions_only (options : Options File) (tree : Source.Node)
    (hlog : run₁.log.isSome = run.log.isSome) :
    (∀ verbose, let plain := (run₁.convert { options with file := none, verbose := verbose } tree).1
      plain = (run.convert options tree).1.map Node.withoutPositions ∧
        ∀ node, plain = .ok node → ∀ n ∈ node.preorder,
          n.position = none ∧ n.tag?.bind Tag.positions = none) ∧
      ∀ verbose : Value, verbose.truthy = false →
        let plain := run.convert { options with verbose := verbose } tree
        plain.1 = (run.convert options tree).1.map Node.withoutTagPositions ∧
          plain.2 = (run.convert options tree).2 := by
  constructor
  · intro verbose plain
    have hplain : plain = _ := Run.convert_without_file hlog tree verbose
    refine ⟨hplain, fun node hnode n hn => ?_⟩
    rw [hplain] at hnode
    cases hplaced : (run.convert options tree).1 with
    | error failure =>
      rw [hplaced] at hnode
      cases hnode
    | ok placed =>
      rw [hplaced] at hnode
      cases hnode
      exact Node.strip_false_unplaced hn
  · intro verbose h
    exact Run.convert_without_verbose run tree h

def unplacedLetter : Node :=
  .root none false
    [.element none ⟨.string "p", [], none⟩ [.literal none .text (.string "a\n")] none,
      .element none ⟨.string "template", [], none⟩ [] (some (.root none false []))]

theorem withoutPositions_convertedLetter : convertedLetter.withoutPositions = unplacedLetter := by
  simp [Node.withoutPositions, convertedLetter, unplacedLetter]

theorem convert_adds_positions_only_letter :
    (Run.fresh { mailed with file := none } false).log.isSome =
        (Run.fresh mailed false).log.isSome ∧
      ((Run.fresh { mailed with file := none } false).convert { mailed with file := none }
        letter).1 = .ok unplacedLetter ∧
      Value.truthy .null = false ∧
      ((Run.fresh mailed false).convert { mailed with verbose := .null } letter).1 =
        .ok convertedLetter.withoutTagPositions := by
  obtain ⟨run', h⟩ := convert_letter
  have hlog : (Run.fresh { mailed with file := none } false).log.isSome =
      (Run.fresh mailed false).log.isSome := rfl
  obtain ⟨hplain, hterse⟩ := convert_adds_positions_only mailed letter hlog
  refine ⟨hlog, ?_, rfl, ?_⟩
  · refine (hplain (.bool true)).1.trans ?_
    rw [h]
    exact congrArg Except.ok withoutPositions_convertedLetter
  · refine (hterse .null rfl).1.trans ?_
    rw [h]
    rfl

end MarkupTree

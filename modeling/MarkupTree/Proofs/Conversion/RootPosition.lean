import MarkupTree.Proofs.Conversion.Located
import MarkupTree.Proofs.Conversion.Survival

namespace MarkupTree

/-- The location of a root decides its position, and the flag only where that has no known end. -/
theorem position_locate_root {context : Context} {source : Source.Node} {p : Option Position}
    {quirksMode : Bool} {children : List Node} (run : Run) (htext : context.text.isSome) :
    (locate context source.location (.root p quirksMode children) run).1.position =
      source.place?.or p := by
  rw [position_locate, if_pos htext]
  rfl

/-- A root spans the text if a node that was converted before it or that is below it is located,
unless it has a position of its own. -/
theorem convertNode_root_position_of_indexed {context : Context} {source : Source.Node}
    {run run' : Run} {result : Node} {text : String} (htext : context.text = some text)
    (hroot : source.IsRoot) (hindex : run.Indexed context.text)
    (h : convertNode context source run = (.ok result, run')) :
    result.position = source.place?.or
      (if run.located ∨ ∃ n ∈ source.visitedBelow, n.IsLocated then
        some (LineIndex.ofText text).whole else none) := by
  obtain ⟨rule, children, content, made, run₂, run₃, hrule, hbelow, hmade, hlocate⟩ :=
    convertNode_made h
  rw [(source.rule?_eq_root_iff).mpr hroot] at hrule
  cases hrule
  have hsome : (context.below source).text.isSome := by simp [htext]
  have hflag : run₂.located ↔ run.located ∨ ∃ n ∈ source.visitedBelow, n.IsLocated := by
    rw [hbelow.located, htext]
    simp
  have hmade' : made = (Rule.convertRoot (context.below source) source children run₂).1 :=
    (Except.ok.inj (congrArg Prod.fst hmade)).symm
  have hresult : result = (locate (context.below source) source.location made run₃).1 := by
    rw [hlocate]
  by_cases hspan : run₂.located
  · have hline : (run₂.lineIndex (context.below source).text).1 = LineIndex.ofText text := by
      rw [Context.text_below, Run.lineIndex_fst (hbelow.indexed hindex), htext, Option.getD_some]
    rw [Rule.convertRoot_of_located (by simp [htext, hspan]), hline] at hmade'
    rw [hresult, hmade', position_locate_root _ hsome, if_pos (hflag.mp hspan)]
  · rw [Rule.convertRoot_of_unlocated (by simp [hspan])] at hmade'
    rw [hresult, hmade', position_locate_root _ hsome, if_neg (mt hflag.mpr hspan)]

/-- A root that is the first to be entered has only the nodes below it to go by. -/
theorem convertNode_root_position {context : Context} {source : Source.Node} {run run' : Run}
    {result : Node} {text : String} (htext : context.text = some text) (hroot : source.IsRoot)
    (hlocated : run.located = false) (hindex : run.index = none)
    (h : convertNode context source run = (.ok result, run')) :
    result.position = source.place?.or
      (if ∃ n ∈ source.visitedBelow, n.IsLocated then some (LineIndex.ofText text).whole
        else none) := by
  have hstart : run.Indexed context.text := by
    intro index hmem
    rw [hindex] at hmem
    cases hmem
  rw [convertNode_root_position_of_indexed htext hroot hstart h]
  simp only [hlocated, Bool.false_eq_true, false_or]

/-- A conversion ends as located if there is a file and any node that it entered is located. The
root that it gives has the position of its own location, or else that of the whole text if a node
below it is located. -/
theorem convert_located_iff {run run' : Run} {options : Options File} {tree : Source.Node}
    {node : Node} (h : run.convert options tree = (.ok node, run')) :
    (run'.located ↔ options.file.isSome ∧ ∃ n ∈ tree.visited, n.IsLocated) ∧
      (tree.IsRoot → ∀ file, options.file = some file →
        node.position = tree.place?.or
          (if ∃ n ∈ tree.visitedBelow, n.IsLocated then
            some ⟨some ⟨some 1, some 1, some 0⟩,
              (LineIndex.ofText file.text).toPoint (some file.text.length)⟩
          else none)) := by
  obtain ⟨log, log', run₂, hnode, rfl⟩ := Run.convert_steps h
  constructor
  · have hfollows := convertNode_follows tree _ _ _ _ hnode
    have htext : (Context.ofOptions options).text.isSome = options.file.isSome := by
      simp
    dsimp only
    rw [hfollows.located, htext]
    simp [Run.restart]
  · intro hroot file hfile
    have htext : (Context.ofOptions options).text = some file.text := by
      simp [hfile]
    rw [← LineIndex.whole_ofText]
    exact convertNode_root_position htext hroot rfl rfl hnode

def remark : Source.Node :=
  (Source.Node.bare "fragment" none none
    [.bare "text" "a" none
      [(Source.Node.bare "comment" "b" none [] none).atLocation
        ⟨⟨⟨some 0, some 1, some 0⟩, ⟨some 1, some (-1), none⟩⟩, none, none, []⟩] none] none).atLocation
    ⟨⟨⟨some 0, some 1, some 0⟩, ⟨some 1, none, none⟩⟩, none, none, []⟩

def twoLines : Options File := ⟨.string "html", some (.ofText "a\nb" none), .bool false⟩

def convertedRemark : Node :=
  .root (some (LineIndex.ofText "a\nb").whole) false [.literal none .text (.string "a")]

theorem convert_remark :
    ∃ run', (Run.fresh twoLines false).convert twoLines remark = (.ok convertedRemark, run') := by
  refine ⟨⟨true, some (LineIndex.ofText "a\nb"), [], none⟩, ?_⟩
  rw [Run.convert_eq_convertNode]
  rfl

theorem convert_located_iff_remark :
    ∃ run', (Run.fresh twoLines false).convert twoLines remark = (.ok convertedRemark, run') ∧
      run'.located ∧ convertedRemark.position =
        some ⟨some ⟨some 1, some 1, some 0⟩, (LineIndex.ofText "a\nb").toPoint (some 3)⟩ := by
  obtain ⟨run', h⟩ := convert_remark
  obtain ⟨hflag, hposition⟩ := convert_located_iff h
  have hbelow : ∃ n ∈ remark.visitedBelow, n.IsLocated := by decide
  have hroot := hposition (.inr rfl) (.ofText "a\nb" none) rfl
  rw [if_pos hbelow] at hroot
  exact ⟨run', h, hflag.mpr ⟨rfl, by decide⟩, hroot⟩

end MarkupTree

import MarkupTree.Proofs.Conversion.Arrival
import MarkupTree.Proofs.Conversion.RootPosition

namespace MarkupTree

namespace Source.Node

/-- The position goes from the end of the start tag of a node to the start of its end tag. Both tags
have a position, and one of these two points is known. -/
def IsBetweenTags (node : Source.Node) (p : Position) : Prop :=
  ∃ l opening closing, node.location = some l ∧
    l.startTag = some opening ∧ (opening.start.Known ∨ opening.finish.Known) ∧
    l.endTag = some closing ∧ (closing.start.Known ∨ closing.finish.Known) ∧
    (opening.finish.Known ∨ closing.start.Known) ∧
    p = ⟨opening.finish.known?, closing.start.known?⟩

/-- The nodes that a conversion of a tree is done with when the rule of the node at the end of a
path runs. -/
def visitedUntil (path : List Turn) (tree : Source.Node) : List Source.Node :=
  tree.visitedBefore path ++ ((tree.keptAt? path).map visitedBelow).getD []

end Source.Node

section
variable {source : Source.Node} {p : Position}

theorem contentPosition?_eq_some_iff :
    contentPosition? source.location = some p ↔ source.IsBetweenTags p := by
  unfold contentPosition? Source.Node.IsBetweenTags
  constructor
  · intro h
    split at h
    · next opened closed hopened hclosed =>
      obtain ⟨l, hl, hstart⟩ := Option.bind_eq_some_iff.mp hopened
      obtain ⟨opening, hopening, hopened⟩ := Option.bind_eq_some_iff.mp hstart
      rw [hl, Option.bind_some] at hclosed
      obtain ⟨closing, hclosing, hclosed⟩ := Option.bind_eq_some_iff.mp hclosed
      obtain ⟨hknown, rfl⟩ := Span.position?_eq_some_iff.mp hopened
      obtain ⟨hknown', rfl⟩ := Span.position?_eq_some_iff.mp hclosed
      rw [Option.ite_none_right_eq_some, Bool.or_eq_true, Point.known?_isSome_iff,
        Point.known?_isSome_iff] at h
      exact ⟨l, opening, closing, hl, hopening, hknown, hclosing, hknown', h.1,
        (Option.some.inj h.2).symm⟩
    · cases h
  · rintro ⟨l, opening, closing, hl, hopening, hknown, hclosing, hknown', hinner, rfl⟩
    have hopened := Span.position?_eq_some_iff.mpr ⟨hknown, rfl⟩
    have hclosed := Span.position?_eq_some_iff.mpr ⟨hknown', rfl⟩
    simp only [hl, Option.bind_some, hopening, hopened, hclosing, hclosed]
    rw [if_pos]
    rwa [Bool.or_eq_true, Point.known?_isSome_iff, Point.known?_isSome_iff]

end

/-- Content without a place of its own is put between the tags. Where these do not say where that
is, it spans the whole text if a node in front of it or below it is located. -/
theorem convertNode_content_position {context : Context} {tree source s : Source.Node}
    {path : List Turn} {run run' : Run} {node : Node} {text : String}
    (htext : context.text = some text) (hindex : run.Indexed context.text)
    (hlocated : run.located = false) (hsource : tree.keptAt? path = some source)
    (htemplate : source.isTemplate) (hcontent : source.content? = some s) (hroot : s.IsRoot)
    (hlocation : ¬s.IsLocated) (h : convertNode context tree run = (.ok node, run')) :
    ∃ content, node.at? (path ++ [.content]) = some content ∧
      content.position = (contentPosition? source.location).or
        (if ∃ n ∈ tree.visitedUntil (path ++ [Turn.content]), n.IsLocated then
          some (LineIndex.ofText text).whole else none) := by
  have hkept : tree.keptAt? (path ++ [.content]) = some s := by
    rw [Source.Node.keptAt?_append, hsource, Option.bind_some]
    exact Source.Node.keptAt?_content_eq_some_iff.mpr ⟨htemplate, s, hcontent, rfl⟩
  obtain ⟨result, content, run₁, run₁', hresult, hbefore, hat, hposition⟩ :=
    convertNode_position_at (by rw [htext]; rfl) h hkept
  have hplace : s.place? = none := by
    rwa [← Option.not_isSome_iff_eq_none, Source.Node.place?_isSome_iff]
  have hspan := convertNode_root_position_of_indexed htext hroot (hbefore.indexed hindex) hresult
  -- The flag that the content finds set comes from nodes of this tree, since it started unset.
  have hflag : (run₁.located ∨ ∃ n ∈ s.visitedBelow, n.IsLocated) ↔
      ∃ n ∈ tree.visitedUntil (path ++ [Turn.content]), n.IsLocated := by
    rw [hbefore.located, hlocated, Source.Node.visitedUntil, hkept, htext]
    simp only [Bool.false_eq_true, false_or, Option.isSome_some, true_and, Option.map_some,
      Option.getD_some, List.mem_append, or_and_right, exists_or]
  refine ⟨content, hat, ?_⟩
  rw [hposition, Source.Node.contentSpan?_content hsource (by simp [hcontent]), hspan, hplace,
    Option.none_or]
  simp only [hflag]

/-- With a file, content of a template without a place of its own stands between the tags, if these
say where that is. If they do not, it has no position as long as no node is located, neither one
that comes before it anywhere in the tree nor one below it, but else that of the whole text. -/
theorem convert_content_between_tags_iff {run run' : Run} {options : Options File} {file : File}
    {tree source s : Source.Node} {path : List Turn} {node : Node}
    (h : run.convert options tree = (.ok node, run')) (hfile : options.file = some file)
    (hsource : tree.keptAt? path = some source) (htemplate : source.isTemplate)
    (hcontent : source.content? = some s) (hroot : s.IsRoot) (hlocation : ¬s.IsLocated) :
    ∃ content, node.at? (path ++ [.content]) = some content ∧
      (∀ p, source.IsBetweenTags p → content.position = some p) ∧
      ((¬∃ p, source.IsBetweenTags p) → content.position =
        if ∃ n ∈ tree.visitedUntil (path ++ [Turn.content]), n.IsLocated then
          some ⟨some ⟨some 1, some 1, some 0⟩,
            (LineIndex.ofText file.text).toPoint (some file.text.length)⟩
        else none) ∧
      ((∀ p, content.position = some p ↔ source.IsBetweenTags p) ↔
        (∃ p, source.IsBetweenTags p) ∨
          ¬∃ n ∈ tree.visitedUntil (path ++ [Turn.content]), n.IsLocated) := by
  obtain ⟨log, log', run₂, hnode, rfl⟩ := Run.convert_steps h
  have htext : (Context.ofOptions options).text = some file.text := by
    simp [hfile]
  obtain ⟨content, hat, hposition⟩ := convertNode_content_position htext
    (fun _ hindex => by cases hindex) rfl hsource htemplate hcontent hroot hlocation hnode
  refine ⟨content, hat, ?_⟩
  simp only [← LineIndex.whole_ofText, hposition, ← contentPosition?_eq_some_iff]
  cases contentPosition? source.location with
  | some q =>
    refine ⟨fun p hp => hp, fun hno => absurd ⟨q, rfl⟩ hno, ?_⟩
    exact iff_of_true (fun p => Iff.rfl) (.inl ⟨q, rfl⟩)
  | none =>
    refine ⟨fun p hp => ?_, fun _ => Option.none_or, ?_⟩
    · cases hp
    · -- The whole text is a position that the tags do not give.
      split <;> simp_all

def unended : Source.Node :=
  let text := (Source.Node.bare "text" "a" none [] none).atLocation
    ⟨⟨⟨some 1, some 11, some 10⟩, ⟨some 1, some 12, some 11⟩⟩, none, none, []⟩
  (Source.Node.bare "element" none "template" []
    (some (.bare "fragment" none none [text] none))).atLocation
    ⟨⟨⟨some 1, some 1, some 0⟩, ⟨some 1, some 12, some 11⟩⟩,
      some ⟨⟨some 1, some 1, some 0⟩, ⟨some 1, some 11, some 10⟩⟩, none, []⟩

def noEndTag : Options File := ⟨.string "html", some (.ofText "<template>a" none), .bool false⟩

def convertedUnended : Node :=
  .element (some ⟨some ⟨some 1, some 1, some 0⟩, some ⟨some 1, some 12, some 11⟩⟩)
    ⟨.string "template", [], none⟩ []
    (some (.root (some (LineIndex.ofText "<template>a").whole) false
      [.literal (some ⟨some ⟨some 1, some 11, some 10⟩, some ⟨some 1, some 12, some 11⟩⟩) .text
        (.string "a")]))

theorem convert_unended :
    ∃ run', (Run.fresh noEndTag false).convert noEndTag unended = (.ok convertedUnended, run') := by
  refine ⟨⟨true, some (LineIndex.ofText "<template>a"), [], none⟩, ?_⟩
  rw [Run.convert_eq_convertNode]
  rfl

theorem not_isBetweenTags_unended : ¬∃ p, unended.IsBetweenTags p := by
  rintro ⟨p, l, _, closing, hl, -, -, hclosing, -⟩
  cases hl
  cases hclosing

theorem convert_content_between_tags_iff_unended :
    (∃ run', (Run.fresh noEndTag false).convert noEndTag unended = (.ok convertedUnended, run')) ∧
      ∃ content, convertedUnended.at? [.content] = some content ∧
        content.position = some ⟨some ⟨some 1, some 1, some 0⟩,
          (LineIndex.ofText "<template>a").toPoint (some 11)⟩ ∧
        ((∀ p, content.position = some p ↔ unended.IsBetweenTags p) ↔
          (∃ p, unended.IsBetweenTags p) ∨
            ¬∃ n ∈ unended.visitedUntil [.content], n.IsLocated) := by
  obtain ⟨run', h⟩ := convert_unended
  have hself : unended.keptAt? [] = some unended := rfl
  obtain ⟨content, hat, -, hwhole, hiff⟩ := convert_content_between_tags_iff h rfl hself rfl rfl
    (.inr rfl) (by decide)
  have hlocated : ∃ n ∈ unended.visitedUntil [Turn.content], n.IsLocated := by decide +kernel
  exact ⟨⟨run', h⟩, content, hat, (hwhole not_isBetweenTags_unended).trans (if_pos hlocated), hiff⟩

/-- A fragment without a location is not always without a position where the tags of its template
give it none. -/
theorem convert_content_not_between_tags :
    ¬∀ (run run' : Run) (options : Options File) (file : File) (tree source s : Source.Node)
      (path : List Turn) (node : Node), run.convert options tree = (.ok node, run') →
        options.file = some file → tree.keptAt? path = some source → source.isTemplate →
        source.content? = some s → s.kind = .string "fragment" → s.location = none →
          ∃ content, node.at? (path ++ [.content]) = some content ∧
            ∀ p, content.position = some p ↔ source.IsBetweenTags p := by
  intro hbetween
  obtain ⟨run', h⟩ := convert_unended
  obtain ⟨content, hat, hposition⟩ := hbetween _ _ _ _ _ _ _ [] _ h rfl rfl rfl rfl rfl rfl
  cases hat
  exact not_isBetweenTags_unended ⟨_, (hposition _).mp rfl⟩

end MarkupTree

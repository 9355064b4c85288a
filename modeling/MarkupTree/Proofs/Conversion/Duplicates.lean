import MarkupTree.Proofs.Construction.Attributes
import MarkupTree.Proofs.Conversion.Survival

namespace MarkupTree

def Source.Node.namedValues (node : Source.Node) : List (String × Value) :=
  node.payload.attributes.map Source.Attribute.named

/-- The attributes of an element are collected under their qualified names first, and under the
spelling of these names in the space of the element after that. -/
def Collects (source : Source.Node) (result : Node) : Prop :=
  source.rule? = some .element → (∀ a ∈ source.payload.attributes, a.WellFormed) →
    ∃ tag, result.tag? = some tag ∧
      tag.attributes =
        Entries.renamed source.space.attributeName Node.attributeText source.namedValues

theorem Collects.atPlaces {source : Source.Node} {result : Node} (h : Collects source result)
    (p : Option Position) (positions : Option TagPositions) :
    Collects source (result.atPlaces p positions) := by
  intro hrule hattributes
  obtain ⟨tag, htag, hcollected⟩ := h hrule hattributes
  cases result with
  | element _ tag' children content =>
    cases htag
    exact ⟨_, rfl, hcollected⟩
  | _ => cases htag

theorem Rule.convert_collects {rule : Rule} {context : Context} {source : Source.Node}
    {children : List Node} {content : Option Node} {run run' : Run} {result : Node}
    (hrule : source.rule? = some rule)
    (h : rule.convert (context.below source) source children content run = (.ok result, run')) :
    Collects source result := by
  intro helement hattributes
  obtain rfl := Option.some.inj (helement.symm.trans hrule)
  obtain ⟨attributes, name, spelled, hread, -, hspell, htag⟩ :=
    convertElement_tag (convert_element_eq_ok h)
  rw [readAttributes_eq hattributes, Except.ok.injEq] at hread
  rw [← hread, Node.spellAttributes_eq, Context.space_below hrule, Except.ok.injEq] at hspell
  exact ⟨_, htag, hspell.symm⟩

theorem Run.convert_collects {run run' : Run} {options : Options File} {tree : Source.Node}
    {node : Node} (h : run.convert options tree = (.ok node, run')) :
    Aligned Collects tree.survivors node.preorder := by
  obtain ⟨run₁, run₂, hnode⟩ := Run.convert_eq_ok h
  exact convertNode_aligned (fun _ _ p positions h => h.atPlaces p positions)
    (fun _ _ _ _ _ _ _ _ hrule h => Rule.convert_collects hrule h) tree _ _ _ _ hnode

/-- `P` holds of each attribute of an element and the last of the attributes that the source gives
for its key, in any spelling. -/
def EveryAttribute (P : Source.Node → Tag → String → String × Value → Prop)
    (source : Source.Node) (result : Node) : Prop :=
  source.rule? = some .element → (∀ a ∈ source.payload.attributes, a.WellFormed) →
    ∃ tag, result.tag? = some tag ∧ ∀ k ∈ Entries.keys tag.attributes, ∃ last,
      Entries.lastRenamed source.space.attributeName k source.namedValues = some last ∧
        P source tag k last

def LastCounts (_ : Source.Node) (tag : Tag) (k : String) (last : String × Value) : Prop :=
  Entries.get? k tag.attributes = some (Node.attributeText last.2)

/-- The value in the result is the last one of the spelling that was the last to appear for the
first time. -/
def NewestCounts (source : Source.Node) (tag : Tag) (k : String) : Prop :=
  Entries.get? k tag.attributes =
    (Entries.latestKey source.space.attributeName k source.namedValues).bind fun name =>
      (Entries.last? name source.namedValues).map Node.attributeText

/-- The spelling of the last attribute for a key was also the last to appear for the first time, or
the last value of the spelling that was is the same text. -/
def LastSpellingIsNewest (source : Source.Node) (_ : Tag) (k : String) (last : String × Value) :
    Prop :=
  Entries.latestKey source.space.attributeName k source.namedValues = some last.1 ∨
    ∃ name v, Entries.latestKey source.space.attributeName k source.namedValues = some name ∧
      Entries.last? name source.namedValues = some v ∧
      Node.attributeText v = Node.attributeText last.2

/-- In every element of a converted tree, the newest spelling of an attribute decides its value, so
that the last value given for it counts exactly if its spelling is the newest one. -/
theorem convert_attribute_last_iff {run run' : Run} {options : Options File} {tree : Source.Node}
    {node : Node} (h : run.convert options tree = (.ok node, run')) :
    Aligned (EveryAttribute fun source tag k last =>
      NewestCounts source tag k ∧
        (LastCounts source tag k last ↔ LastSpellingIsNewest source tag k last))
      tree.survivors node.preorder := by
  refine (Run.convert_collects h).imp fun source result hcollects hrule hattributes => ?_
  obtain ⟨tag, htag, hcollected⟩ := hcollects hrule hattributes
  refine ⟨tag, htag, fun k hk => ?_⟩
  rw [hcollected] at hk
  obtain ⟨last, hlast⟩ := Entries.exists_lastRenamed _ hk
  refine ⟨last, hlast, ?_, ?_⟩
  · rw [NewestCounts, hcollected]
    exact Entries.get?_renamed _ _ _ k
  · rw [LastCounts, hcollected]
    exact Entries.get?_renamed_eq_last_iff _ _ hlast

def respelled : Source.Node :=
  .mk .element ⟨.string "element", none, none, some (.string "p"), .null, .string htmlNamespace,
    [⟨some (.string "ID"), some .null, some (.string "a")⟩,
      ⟨some (.string "id"), some .null, some (.string "b")⟩,
      ⟨some (.string "ID"), some .null, some (.string "c")⟩]⟩ [] none

theorem convert_respelled :
    (Run.fresh Options.standard false).convert Options.standard respelled =
      (.ok (.element none ⟨.string "p", [("id", .string "b")], none⟩ [] none),
        Run.fresh Options.standard false) := by
  rw [Run.convert_eq_convertNode]
  rfl

theorem convert_attribute_last_iff_respelled :
    (Run.fresh Options.standard false).convert Options.standard respelled =
        (.ok (.element none ⟨.string "p", [("id", .string "b")], none⟩ [] none),
          Run.fresh Options.standard false) ∧
      Aligned (EveryAttribute fun source tag k last =>
        NewestCounts source tag k ∧
          (LastCounts source tag k last ↔ LastSpellingIsNewest source tag k last)) [respelled]
        [.element none ⟨.string "p", [("id", .string "b")], none⟩ [] none] :=
  ⟨convert_respelled, convert_attribute_last_iff convert_respelled⟩

/-- The last value given for an attribute does not always count. -/
theorem convert_attribute_not_last :
    ¬∀ (run run' : Run) (options : Options File) (tree : Source.Node) (node : Node),
      run.convert options tree = (.ok node, run') →
        Aligned (EveryAttribute LastCounts) tree.survivors node.preorder := by
  intro hlast
  have hattributes : ∀ a ∈ respelled.payload.attributes, a.WellFormed := by
    simp [respelled, Source.Node.payload, Source.Attribute.WellFormed]
  have haligned := hlast _ _ _ _ _ convert_respelled
  cases haligned with
  | node h _ _ =>
    obtain ⟨tag, htag, hvalues⟩ := h rfl hattributes
    cases htag
    obtain ⟨last, hlast, hcounts⟩ := hvalues "id" (by decide)
    have hc : Entries.lastRenamed Space.html.attributeName "id" respelled.namedValues =
      some ("ID", .string "c") := rfl
    cases hc.symm.trans hlast
    simp [LastCounts, Entries.get?, Node.attributeText, Value.text] at hcounts

end MarkupTree

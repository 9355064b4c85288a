import MarkupTree.Proofs.Conversion.Duplicates
import MarkupTree.Proofs.Conversion.Refusal

namespace MarkupTree

/-- The attributes of an element stand under the spellings of all qualified names that its source
gives, each at the place where it first comes up there, and no spelling stands twice. Every value is
the text of one that the source gives for its spelling. -/
def KeepsAttributeOrder (source : Source.Node) (result : Node) : Prop :=
  source.rule? = some .element → ∃ tag, result.tag? = some tag ∧
    Entries.keys tag.attributes =
      (source.namedValues.map fun p => source.space.attributeName p.1).eraseDups ∧
    (Entries.keys tag.attributes).Nodup ∧
    ∀ p ∈ tag.attributes, ∃ q ∈ source.namedValues,
      source.space.attributeName q.1 = p.1 ∧ Node.attributeText q.2 = p.2

theorem KeepsAttributeOrder.atPlaces {source : Source.Node} {result : Node}
    (h : KeepsAttributeOrder source result) (p : Option Position)
    (positions : Option TagPositions) : KeepsAttributeOrder source (result.atPlaces p positions) := by
  intro helement
  obtain ⟨tag, htag, hattributes⟩ := h helement
  cases result with
  | element _ tag' children content =>
    cases htag
    exact ⟨_, rfl, hattributes⟩
  | _ => cases htag

/-- Both collections of the attributes keep each name at its first place. -/
theorem Rule.convert_keepsAttributeOrder {rule : Rule} {context : Context} {source : Source.Node}
    {children : List Node} {content : Option Node} {run run' : Run} {result : Node}
    (hrule : source.rule? = some rule)
    (h : rule.convert (context.below source) source children content run = (.ok result, run')) :
    KeepsAttributeOrder source result := by
  intro helement
  obtain rfl := Option.some.inj (helement.symm.trans hrule)
  obtain ⟨attributes, name, spelled, hread, -, hspell, htag⟩ :=
    convertElement_tag (convert_element_eq_ok h)
  rw [Context.space_below hrule] at hspell
  obtain rfl := eq_renamed_of_spellAttributes hread hspell
  refine ⟨_, htag, Entries.keys_renamed _ _ _, Entries.nodup_keys_ofList _, fun p hp => ?_⟩
  exact Entries.exists_of_mem_renamed _ hp

/-- Every element of a converted tree has its attributes in the order of its source, and the rule for
elements never fails for attributes that have texts as their names. -/
theorem convert_attributes_in_order :
    (∀ (run run' : Run) (options : Options File) (tree : Source.Node) (node : Node),
      run.convert options tree = (.ok node, run') →
        Aligned KeepsAttributeOrder tree.survivors node.preorder) ∧
    ∀ (context : Context) (source : Source.Node) (children : List Node) (content : Option Node)
      (run : Run), source.rule? = some .element → source.WellFormed → ∃ result run',
        Rule.element.convert (context.below source) source children content run =
          (.ok result, run') ∧ KeepsAttributeOrder source result := by
  constructor
  · intro run run' options tree node h
    obtain ⟨run₁, run₂, hnode⟩ := Run.convert_eq_ok h
    exact convertNode_aligned (fun _ _ p positions h => h.atPlaces p positions)
      (fun _ _ _ _ _ _ _ _ hrule h => Rule.convert_keepsAttributeOrder hrule h) tree _ _ _ _ hnode
  · intro context source children content run helement hsource
    obtain ⟨result, hresult⟩ :=
      Rule.convert_eq_ok hsource helement (context.below source) children content run
    have hmade : Rule.element.convert (context.below source) source children content run =
        (.ok result, (Rule.element.convert (context.below source) source children content run).2) :=
      Prod.ext hresult rfl
    exact ⟨result, _, hmade, Rule.convert_keepsAttributeOrder helement hmade⟩

def translated : Source.Node :=
  .mk .element ⟨.string "element", none, none, some (.string "Q"), .null, .string htmlNamespace,
    [⟨some (.string "LANG"), some .null, some (.string "de")⟩,
      ⟨some (.string "ID"), some .null, some (.string "a")⟩,
      ⟨some (.string "lang"), some .null, some (.string "fr")⟩,
      ⟨some (.string "Lang"), some (.string "xml"), some .null⟩,
      ⟨some (.string "id"), some (.string ""), some (.string "b")⟩]⟩ [] none

def convertedTranslated : Node :=
  .element none ⟨.string "q",
    [("lang", .string "fr"), ("id", .string "b"), ("xml:lang", .string "")], none⟩ [] none

theorem convert_translated :
    (Run.fresh Options.standard false).convert Options.standard translated =
      (.ok convertedTranslated, Run.fresh Options.standard false) := by
  rw [Run.convert_eq_convertNode]
  rfl

theorem translated_wellFormed : translated.WellFormed := by
  have hattributes : ∀ a ∈ translated.payload.attributes, a.WellFormed := by
    simp [translated, Source.Node.payload, Source.Attribute.WellFormed]
  refine ⟨rfl, fun h => ?_, fun _ => ⟨"Q", by decide, rfl⟩, fun _ => hattributes⟩
  rcases h with h | h | h | h <;> cases h

theorem convert_attributes_in_order_translated :
    (Run.fresh Options.standard false).convert Options.standard translated =
        (.ok convertedTranslated, Run.fresh Options.standard false) ∧ translated.WellFormed ∧
      Aligned KeepsAttributeOrder [translated] [convertedTranslated] ∧
      ∃ result run', Rule.element.convert ⟨.html, none, .bool false⟩ translated [] none
        (Run.fresh Options.standard false) = (.ok result, run') ∧
          KeepsAttributeOrder translated result :=
  ⟨convert_translated, translated_wellFormed,
    convert_attributes_in_order.1 _ _ _ _ _ convert_translated,
    convert_attributes_in_order.2 ⟨.svg, none, .bool false⟩ translated [] none _ rfl
      translated_wellFormed⟩

end MarkupTree

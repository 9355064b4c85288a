import MarkupTree.Proofs.Construction.Attributes
import MarkupTree.Proofs.Text.Lowercase

namespace MarkupTree

theorem Schema.lowercase_casing (names : List String) (name : String) :
    Text.lowercase ((Entries.get? (Text.lowercase name) (casing names)).getD
      (Text.lowercase name)) = Text.lowercase name := by
  cases hspelled : Entries.get? (Text.lowercase name) (casing names) with
  | none => exact Text.lowercase_idempotent name
  | some spelled => exact (mem_of_get?_casing hspelled).2

namespace Space

theorem lowercase_elementName (space : Space) (name : String) :
    Text.lowercase (space.elementName name) = Text.lowercase name := by
  cases space with
  | html => exact Text.lowercase_idempotent name
  | svg => exact Schema.lowercase_casing _ name

theorem lowercase_attributeName (space : Space) (name : String) :
    Text.lowercase (space.attributeName name) = Text.lowercase name := by
  cases space with
  | html => exact Text.lowercase_idempotent name
  | svg => exact Schema.lowercase_casing _ name

/-- A spelling goes by the lower case of a name alone, so it is its own spelling. -/
theorem elementName_idempotent (space : Space) (name : String) :
    space.elementName (space.elementName name) = space.elementName name := by
  have hlower := lowercase_elementName space name
  conv_lhs => rw [elementName.eq_def, hlower]
  cases space <;> rfl

theorem attributeName_idempotent (space : Space) (name : String) :
    space.attributeName (space.attributeName name) = space.attributeName name := by
  have hlower := lowercase_attributeName space name
  conv_lhs => rw [attributeName.eq_def, hlower]
  cases space <;> rfl

end Space

namespace Node

theorem attributeText_idempotent (v : Value) :
    attributeText (attributeText v) = attributeText v := by
  cases v <;> rfl

/-- Spelled attributes are spelled already: none of them changes its name, its value or its place. -/
theorem spellAttributes_spelled {space : Space} {attributes : List (Value × Value)}
    {spelled : Entries String Value} (h : spellAttributes space [] attributes = .ok spelled) :
    spellAttributes space [] spelled.asValues = .ok spelled := by
  obtain ⟨pairs, rfl⟩ := exists_asValues_of_spellAttributes h
  rw [spellAttributes_asValues, Except.ok.injEq] at h
  have hspelled : spelled =
      Entries.ofList (pairs.map fun p => (space.attributeName p.1, attributeText p.2)) := h.symm
  have hself : ∀ p ∈ spelled, (space.attributeName p.1, attributeText p.2) = p := by
    intro p hp
    rw [hspelled] at hp
    obtain ⟨q, -, rfl⟩ := List.mem_map.mp (Entries.mem_of_mem_ofList hp)
    rw [space.attributeName_idempotent, attributeText_idempotent]
  have hkeys : (Entries.keys spelled).Nodup := by
    rw [hspelled]
    exact Entries.nodup_keys_ofList _
  rw [spellAttributes_asValues, List.map_congr_left hself, List.map_id']
  exact congrArg Except.ok (Entries.ofList_eq_self hkeys)

/-- Building an element once more from its own tag and its children gives the same element. The
children of a template are those of its content. -/
theorem build_idempotent {space : Space} {name : Value} {attributes : List (Value × Value)}
    {children : List Child} {element : Node}
    (h : build space name attributes children = .ok element) :
    ∃ tag, element.tag? = some tag ∧
      (tag.name ≠ .string "template" → build space tag.name tag.attributes.asValues
        (element.children.map Child.node) = .ok element) ∧
      (tag.name = .string "template" → ∃ content, element.content? = some content ∧
        build space tag.name tag.attributes.asValues (content.children.map Child.node) =
          .ok element) := by
  obtain ⟨s, spelled, nodes, hs, rfl, hspelled, -, rfl⟩ := build_of_children_eq_ok_iff.mp h
  have hagain : build space (.string (space.elementName s)) spelled.asValues
      (nodes.map Child.node) = .ok (ofTag ⟨.string (space.elementName s), spelled, none⟩ nodes) :=
    build_eq_ok_iff.mpr ⟨space.elementName s, spelled, Space.elementName_ne_empty space hs, rfl,
      spellAttributes_spelled hspelled, by rw [space.elementName_idempotent]⟩
  by_cases htemplate : space.elementName s = "template"
  · rw [htemplate] at hagain ⊢
    rw [ofTag_template] at hagain ⊢
    exact ⟨_, rfl, fun hne => absurd rfl hne, fun _ => ⟨_, rfl, hagain⟩⟩
  · rw [ofTag_of_ne htemplate] at hagain ⊢
    exact ⟨_, rfl, fun _ => hagain, fun he => absurd (Value.string.inj he) htemplate⟩

def clipping : Node :=
  .element none
    ⟨.string "clipPath", [("calcMode", .string "b"), ("clipPathUnits", .string "")], none⟩
    [.literal none .text (.string "c"), .doctype none] none

theorem build_clipping :
    build .svg (.string "CLIPPATH")
      [(.string "CalcMode", .int 1), (.string "CLIPPATHUNITS", .null),
        (.string "calcmode", .string "b")]
      [.value (.string "c"), .node (.doctype none)] = .ok clipping := rfl

def filled : Node :=
  .element none ⟨.string "template", [("id", .string "a")], none⟩ []
    (some (.root none false [.literal none .text (.string "c")]))

theorem build_filled :
    build .html (.string "Template") [(.string "ID", .string "a")] [.value (.string "c")] =
      .ok filled := rfl

theorem build_idempotent_clipping :
    (build .svg (.string "CLIPPATH")
        [(.string "CalcMode", .int 1), (.string "CLIPPATHUNITS", .null),
          (.string "calcmode", .string "b")]
        [.value (.string "c"), .node (.doctype none)] = .ok clipping ∧
      build .svg (.string "clipPath")
        [(.string "calcMode", .string "b"), (.string "clipPathUnits", .string "")]
        [.node (.literal none .text (.string "c")), .node (.doctype none)] = .ok clipping) ∧
    build .html (.string "Template") [(.string "ID", .string "a")] [.value (.string "c")] =
        .ok filled ∧
      build .html (.string "template") [(.string "id", .string "a")]
        [.node (.literal none .text (.string "c"))] = .ok filled := by
  obtain ⟨tag, htag, hplain, -⟩ := build_idempotent build_clipping
  obtain ⟨tag', htag', -, htemplate⟩ := build_idempotent build_filled
  cases htag
  cases htag'
  obtain ⟨content, hcontent, hfilled⟩ := htemplate rfl
  cases hcontent
  have hne : Value.string "clipPath" ≠ .string "template" :=
    fun h => absurd (Value.string.inj h) (by decide)
  exact ⟨⟨build_clipping, hplain hne⟩, build_filled, hfilled⟩

end Node

end MarkupTree

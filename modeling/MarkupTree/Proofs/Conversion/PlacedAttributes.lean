import MarkupTree.Proofs.Construction.Attributes
import MarkupTree.Proofs.Conversion.Arrival
import MarkupTree.Proofs.Conversion.Tags
import MarkupTree.Proofs.Schema.KnownNames

namespace MarkupTree

open Schema (ofSpace)

theorem Schema.resolve_attributeName (space : Space) {name : String}
    (h : Text.lowercase name = name) :
    (ofSpace space).resolve (space.attributeName name) = (ofSpace space).resolve name := by
  cases space with
  | html => rw [Space.attributeName, h]
  | svg =>
    rw [Space.attributeName]
    cases hspelled : Entries.get? (Text.lowercase name) svgAttributeCasing with
    | none => rw [Option.getD_none, h]
    | some spelled =>
      -- A spelling with capitals is a property of its own, and the name is one of its names.
      obtain ⟨hmem, hlower⟩ := mem_of_get?_casing hspelled
      have hlisted : ⟨spelled, spelled, some "svg"⟩ ∈ listed .svg := by
        refine List.mem_map.mpr ⟨(spelled, spelled), ?_, rfl⟩
        simp only [infosOf, svgInfos, List.mem_append, List.mem_map]
        exact .inl (.inl (.inr ⟨spelled, hmem, rfl⟩))
      rw [Option.getD_some, resolve_of_isNamed hlisted (.inl rfl),
        resolve_of_isNamed hlisted (.inl hlower)]

def Source.Node.locatedNames (source : Source.Node) : List String :=
  Entries.keys ((source.location.map Source.Location.attributes).getD [])

/-- All attributes have names in lower case that the parser reports a place for. -/
def Source.Node.LocatesAttributes (source : Source.Node) : Prop :=
  ∀ a ∈ source.payload.attributes, Text.lowercase a.qualifiedName = a.qualifiedName ∧
    a.qualifiedName ∈ source.locatedNames

/-- The place of every attribute is kept under the property that its name resolves to. -/
def Tag.PlacesAttributes (space : Space) (tag : Tag) : Prop :=
  ∀ key ∈ Entries.keys tag.attributes, ∃ positions place, tag.positions = some positions ∧
    Entries.get? ((ofSpace space).resolve key).property positions.properties = some place

theorem exists_place_of_mem_locatedNames {source : Source.Node} {name : String}
    (h : name ∈ source.locatedNames) (space : Space) :
    ∃ place, Entries.get? ((ofSpace space).resolve name).property
      (tagPositions space source.location).properties = some place := by
  obtain ⟨p, hp, rfl⟩ := List.mem_map.mp h
  rw [← Option.isSome_iff_exists, Option.isSome_iff_ne_none, ne_eq, Entries.get?_eq_none_iff,
    not_not, tagPositions, Entries.keys_ofList, List.mem_eraseDups, List.map_map]
  exact List.mem_map.mpr ⟨p, hp, rfl⟩

theorem Source.Node.GivesTag.placesAttributes {source : Source.Node} {space : Space} {tag : Tag}
    (h : source.GivesTag space true tag) (hsource : source.LocatesAttributes) :
    tag.PlacesAttributes space := by
  obtain ⟨name, attributes, spelled, -, hread, hspell, rfl⟩ := h
  intro key hkey
  obtain ⟨a, ha, rfl⟩ := exists_attributeName_of_mem_keys hread hspell hkey
  obtain ⟨hlower, hlocated⟩ := hsource a ha
  obtain ⟨place, hplace⟩ := exists_place_of_mem_locatedNames hlocated space
  refine ⟨tagPositions space source.location, place, ?_, ?_⟩
  · cases hlocation : source.location with
    | none =>
      rw [locatedNames, hlocation] at hlocated
      cases hlocated
    | some location => rfl
  · rw [Schema.resolve_attributeName space hlower, hplace]

/-- Where tags are placed, the tag of an element whose attributes are located has their places. -/
theorem convertNode_placesAttributes {context : Context} {source : Source.Node} {run run' : Run}
    {result : Node} (htext : context.text.isSome) (hverbose : context.verbose.truthy)
    (helement : source.rule? = some .element) (hsource : source.LocatesAttributes)
    (h : convertNode context source run = (.ok result, run')) :
    ∃ tag, result.tag? = some tag ∧ tag.PlacesAttributes source.space := by
  obtain ⟨tag, htag, hgives⟩ := convertNode_givesTag helement h
  rw [htext, hverbose, Bool.and_self] at hgives
  exact ⟨tag, htag, hgives.placesAttributes hsource⟩

/-- Where tags are placed, the place of every attribute of a converted element can be looked up by
the name that the attribute has in the result, if all its attributes are located under names in
lower case. This holds of every element in a result, and of those whose results are dropped. -/
theorem convert_placesAttributes {options : Options File} (hfile : options.file.isSome)
    (hverbose : options.verbose.truthy) :
    (∀ (run run' : Run) (tree : Source.Node) (node : Node),
      run.convert options tree = (.ok node, run') → ∀ path source,
        tree.keptAt? path = some source → source.rule? = some .element →
          source.LocatesAttributes → ∃ result tag, node.at? path = some result ∧
            result.tag? = some tag ∧ tag.PlacesAttributes source.space) ∧
    ∀ (space : Space) (source : Source.Node) (run run' : Run) (result : Node),
      convertNode ((Context.ofOptions options).inSpace space) source run = (.ok result, run') →
        source.rule? = some .element → source.LocatesAttributes →
          ∃ tag, result.tag? = some tag ∧ tag.PlacesAttributes source.space := by
  have htext (space : Space) : ((Context.ofOptions options).inSpace space).text.isSome := by
    simpa [Context.inSpace] using hfile
  constructor
  · intro run run' tree node h path source hsource helement hlocates
    obtain ⟨_, _, hnode⟩ := Run.convert_eq_ok h
    obtain ⟨result, p, _, _, hresult, hat, -⟩ := convertNode_at hnode hsource
    obtain ⟨tag, htag, hplaces⟩ :=
      convertNode_placesAttributes (htext _) hverbose helement hlocates hresult
    exact ⟨result.withPosition p, tag, hat, by rw [Node.tag?_withPosition, htag], hplaces⟩
  · intro space source run run' result h helement hlocates
    exact convertNode_placesAttributes (htext space) hverbose helement hlocates h

def chart : Source.Node :=
  .mk .element ⟨.string "element",
    some ⟨⟨⟨some 1, some 1, some 0⟩, ⟨some 1, some 50, some 49⟩⟩, none, none,
      [("viewbox", some ⟨⟨some 1, some 6, some 5⟩, ⟨some 1, some 23, some 22⟩⟩),
        ("xlink:href", some ⟨⟨some 1, some 24, some 23⟩, ⟨some 1, some 39, some 38⟩⟩),
        ("data-view", some ⟨⟨some 1, some 40, some 39⟩, ⟨some 1, some 49, some 48⟩⟩)]⟩,
    none, some (.string "svg"), .null, .string svgNamespace,
    [⟨some (.string "viewbox"), some .null, some (.string "0 0 1 1")⟩,
      ⟨some (.string "href"), some (.string "xlink"), some (.string "#a")⟩,
      ⟨some (.string "data-view"), some .null, some (.string "")⟩]⟩ [] none

def charted : Options File :=
  ⟨.string "html", some (.ofText "<svg viewbox='0 0 1 1' xlink:href='#a' data-view>" none),
    .bool true⟩

def convertedChart : Node :=
  .element (some ⟨some ⟨some 1, some 1, some 0⟩, some ⟨some 1, some 50, some 49⟩⟩)
    ⟨.string "svg",
      [("viewBox", .string "0 0 1 1"), ("xlink:href", .string "#a"), ("data-view", .string "")],
      some (tagPositions .svg chart.location)⟩ [] none

theorem convert_chart :
    ∃ run', (Run.fresh charted false).convert charted chart = (.ok convertedChart, run') := by
  refine ⟨⟨true, none, [], none⟩, ?_⟩
  rw [Run.convert_eq_convertNode]
  rfl

theorem locatesAttributes_chart : chart.LocatesAttributes := by
  unfold Source.Node.LocatesAttributes
  decide +kernel

theorem convert_placesAttributes_chart :
    (∃ run', (Run.fresh charted false).convert charted chart = (.ok convertedChart, run')) ∧
      chart.LocatesAttributes ∧ ∃ tag, convertedChart.tag? = some tag ∧
        Entries.keys tag.attributes = ["viewBox", "xlink:href", "data-view"] ∧
        tag.PlacesAttributes .svg := by
  obtain ⟨run', h⟩ := convert_chart
  have hfile : charted.file.isSome := rfl
  obtain ⟨result, tag, hat, htag, hplaces⟩ :=
    (convert_placesAttributes hfile rfl).1 _ _ chart _ h [] chart rfl rfl locatesAttributes_chart
  obtain rfl := Option.some.inj hat
  refine ⟨⟨run', h⟩, locatesAttributes_chart, tag, htag, ?_, hplaces⟩
  cases htag
  rfl

end MarkupTree

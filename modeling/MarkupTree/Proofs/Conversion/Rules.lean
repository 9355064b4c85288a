import MarkupTree.Proofs.Construction.Building
import MarkupTree.Proofs.Conversion.Admission
import MarkupTree.Proofs.Node.Preorder

namespace MarkupTree

theorem need_eq_ok_iff {name : String} {field : Option Value} {v : Value} :
    need name field = .ok v ↔ field = some v := by
  cases field <;> simp [need]

/-- The opening and the closing of a CDATA section do not overlap. -/
theorem closes_after_open {after : List Char}
    (h : "]]".toList <:+ "[CDATA[".toList ++ after) : "]]".toList <:+ after := by
  -- The opening does not end in a closing bracket, so what follows it has to close alone.
  match after, h with
  | [], h =>
    revert h
    decide
  | [c], ⟨before, h⟩ =>
    have hsplit : before ++ "]]".toList = "[CDATA".toList ++ ['[', c] := h
    have hend := List.append_inj_right' hsplit rfl
    simp at hend
  | c :: d :: rest, h => exact List.suffix_of_suffix_length_le h (List.suffix_append _ _) (by simp)

theorem sectionText?_eq_none_iff {data : List Char} :
    sectionText? data = none ↔ ¬("[CDATA[".toList <+: data ∧ "]]".toList <:+ data) := by
  rw [sectionText?, ← List.isPrefixOf_iff_prefix, ← List.isSuffixOf_iff_suffix, ← Bool.and_eq_true]
  split <;> simp_all

theorem sectionText?_section (inner : List Char) :
    sectionText? ("[CDATA[".toList ++ inner ++ "]]".toList) = some inner := by
  have hlength : ("[CDATA[".toList ++ inner ++ "]]".toList).length - 2 =
      ("[CDATA[".toList ++ inner).length := by simp
  rw [sectionText?, hlength, List.take_left, if_pos]
  · rfl
  · rw [Bool.and_eq_true, List.isPrefixOf_iff_prefix, List.isSuffixOf_iff_suffix, List.append_assoc]
    exact ⟨List.prefix_append _ _, ⟨"[CDATA[".toList ++ inner, List.append_assoc _ _ _⟩⟩

theorem sectionText?_eq_some {data inner : List Char} (h : sectionText? data = some inner) :
    data = "[CDATA[".toList ++ inner ++ "]]".toList := by
  have hends : "[CDATA[".toList <+: data ∧ "]]".toList <:+ data :=
    Classical.byContradiction fun hno => by simp [sectionText?_eq_none_iff.mpr hno] at h
  obtain ⟨⟨after, rfl⟩, hclose⟩ := hends
  obtain ⟨text, rfl⟩ := closes_after_open hclose
  rw [← List.append_assoc, sectionText?_section] at h
  cases h
  exact (List.append_assoc _ _ _).symm

namespace Rule
variable {context : Context} {source : Source.Node} {children : List Node}
  {content : Option Node} {run run' : Run} {result : Node}

theorem convertElement_eq_ok_iff :
    convertElement context source children content = .ok result ↔
      ∃ attributes name spelled, readAttributes [] source.payload.attributes = .ok attributes ∧
        source.payload.tagName = some (.string name) ∧ name ≠ "" ∧
        Node.spellAttributes context.space [] attributes = .ok spelled ∧
        result = (Node.ofTag ⟨.string (context.space.elementName name), spelled, none⟩
          children).attachContent context.text.isSome source.location content := by
  simp only [convertElement, bind_eq_ok_iff, need_eq_ok_iff, Node.build_eq_ok_iff]
  constructor
  · rintro ⟨attributes, hread, _, hname, element, ⟨name, spelled, hne, rfl, hspell, rfl⟩, h⟩
    cases h
    exact ⟨attributes, name, spelled, hread, hname, hne, hspell, rfl⟩
  · rintro ⟨attributes, name, spelled, hread, hname, hne, hspell, rfl⟩
    exact ⟨attributes, hread, _, hname, _, ⟨name, spelled, hne, rfl, hspell, rfl⟩, rfl⟩

theorem attachContent_none (hasFile : Bool) (location : Option Source.Location) (node : Node) :
    node.attachContent hasFile location none = node := by
  unfold Node.attachContent
  split <;> simp_all

theorem attachContent_of_ne {name : String} (hname : name ≠ "template") (hasFile : Bool)
    (location : Option Source.Location) (content : Option Node) (attributes : Entries String Value)
    (children : List Node) :
    (Node.ofTag ⟨.string name, attributes, none⟩ children).attachContent hasFile location content =
      .element none ⟨.string name, attributes, none⟩ children none := by
  rw [Node.ofTag_of_ne hname]
  unfold Node.attachContent
  split <;> simp_all

theorem attachContent_template (hasFile : Bool) (location : Option Source.Location)
    (attributes : Entries String Value) (children : List Node) (c : Node) :
    (Node.ofTag ⟨.string "template", attributes, none⟩ children).attachContent hasFile location
        (some c) =
      .element none ⟨.string "template", attributes, none⟩ []
        (some (c.withPosition
          ((if hasFile then contentPosition? location else none).or c.position))) := by
  rw [Node.ofTag_template, Node.attachContent]
  cases (if hasFile then contentPosition? location else none) <;> simp

/-- The children of an element stay with it unless it is a template. Then it has the content of
its source, or a new root that takes the children. -/
theorem convertElement_shape (hrule : source.rule? = some .element)
    (h : convertElement context source children content = .ok result) :
    ∃ tag, (source.isTemplate = false ∧ result = .element none tag children none) ∨
      (source.isTemplate ∧ content = none ∧
        result = .element none tag [] (some (.root none false children))) ∨
      (source.isTemplate ∧ ∃ c, content = some c ∧ result = .element none tag [] (some
        (c.withPosition ((if context.text.isSome then contentPosition? source.location
          else none).or c.position)))) := by
  obtain ⟨attributes, name, spelled, -, hname, -, -, rfl⟩ := convertElement_eq_ok_iff.mp h
  have htemplate := Source.Node.isTemplate_iff hrule hname
  rw [← Space.elementName_eq_template_iff context.space] at htemplate
  by_cases hn : context.space.elementName name = "template"
  · have ht := htemplate.mpr hn
    rw [hn]
    cases content with
    | none => exact ⟨_, .inr (.inl ⟨ht, rfl, attachContent_none _ _ _⟩)⟩
    | some c => exact ⟨_, .inr (.inr ⟨ht, c, rfl, attachContent_template _ _ _ _ c⟩)⟩
  · have ht : source.isTemplate = false := Bool.eq_false_iff.mpr (mt htemplate.mp hn)
    exact ⟨_, .inl ⟨ht, attachContent_of_ne hn _ _ _ _ _⟩⟩

theorem convertElement_tag (h : convertElement context source children content = .ok result) :
    ∃ attributes name spelled, readAttributes [] source.payload.attributes = .ok attributes ∧
      source.payload.tagName = some (.string name) ∧
      Node.spellAttributes context.space [] attributes = .ok spelled ∧
      result.tag? = some ⟨.string (context.space.elementName name), spelled, none⟩ := by
  obtain ⟨attributes, name, spelled, hread, hname, -, hspell, rfl⟩ :=
    convertElement_eq_ok_iff.mp h
  refine ⟨attributes, name, spelled, hread, hname, hspell, ?_⟩
  by_cases hn : context.space.elementName name = "template"
  · rw [hn]
    cases content with
    | none => rw [attachContent_none]; rfl
    | some c => rw [attachContent_template]; rfl
  · rw [attachContent_of_ne hn]
    rfl

theorem convert_root_eq_ok
    (h : convert .root context source children content run = (.ok result, run')) :
    ∃ p, result = .root p source.inQuirksMode children := by
  obtain rfl : (convertRoot context source children run).1 = result :=
    Except.ok.inj (congrArg Prod.fst h)
  rw [convertRoot]
  split
  · exact ⟨_, rfl⟩
  · exact ⟨none, rfl⟩

theorem convertComment_eq_ok (h : convertComment source run = (.ok result, run')) :
    ∃ data, source.payload.data = some (.string data) ∧
      ((sectionText? data.toList = none ∧ result = .literal none .comment (.string data)) ∨
        ∃ inner, sectionText? data.toList = some inner ∧
          result = .literal none .cdata (.string (String.ofList inner))) := by
  rw [convertComment] at h
  split at h
  · cases h
  · next data hdata =>
    refine ⟨data, need_eq_ok_iff.mp hdata, ?_⟩
    cases hs : sectionText? data.toList with
    | none =>
      simp only [hs, Prod.mk.injEq, Except.ok.injEq] at h
      exact .inl ⟨rfl, h.1.symm⟩
    | some inner =>
      simp only [hs] at h
      split at h
      · cases h
      · cases h
        exact .inr ⟨inner, rfl, rfl⟩
  · cases h

theorem convert_text_eq_ok
    (h : convert .text context source children content run = (.ok result, run')) :
    ∃ data, source.payload.data = some data ∧ result = .literal none .text data := by
  cases hdata : source.payload.data with
  | none => simp [convert, hdata, need, Except.map] at h
  | some data =>
    simp only [convert, hdata, need, Except.map, Prod.mk.injEq, Except.ok.injEq] at h
    exact ⟨data, rfl, h.1.symm⟩

theorem convert_element_eq_ok
    (h : convert .element context source children content run = (.ok result, run')) :
    convertElement context source children content = .ok result := by
  simp only [convert, Prod.mk.injEq] at h
  exact h.1

theorem convert_leaf_eq_ok {rule : Rule}
    (h : rule.convert context source children content run = (.ok result, run'))
    (hroot : rule ≠ .root) (helement : rule ≠ .element) :
    (∃ kind value, result = .literal none kind value) ∨ result = .doctype none := by
  cases rule with
  | root => exact absurd rfl hroot
  | element => exact absurd rfl helement
  | text =>
    obtain ⟨data, -, rfl⟩ := convert_text_eq_ok h
    exact .inl ⟨.text, data, rfl⟩
  | comment =>
    obtain ⟨data, -, ⟨-, rfl⟩ | ⟨inner, -, rfl⟩⟩ := convertComment_eq_ok h
    · exact .inl ⟨.comment, _, rfl⟩
    · exact .inl ⟨.cdata, _, rfl⟩
  | doctype =>
    cases h
    exact .inr rfl

end Rule

theorem place_eq (space : Space) (verbose : Bool) (location : Option Source.Location)
    (node : Node) :
    ∃ positions, (node.place space verbose location).2 = node.atPlaces node.position positions := by
  cases node with
  | element p tag children content =>
    cases verbose
    · exact ⟨tag.positions, rfl⟩
    · exact ⟨some (tagPositions space location), rfl⟩
  | _ => exact ⟨none, rfl⟩

/-- Locating a node moves it and nothing else. -/
theorem locate_eq (context : Context) (location : Option Source.Location) (node : Node)
    (run : Run) : ∃ p positions, (locate context location node run).1 = node.atPlaces p positions := by
  obtain ⟨positions, hplace⟩ := place_eq context.space context.verbose.truthy location node
  rw [locate]
  split
  · split
    · next made hmade =>
      rw [hmade] at hplace
      exact ⟨_, _, hplace⟩
    · next p made _ hmade =>
      rw [hmade] at hplace
      refine ⟨p, positions, ?_⟩
      dsimp only at hplace ⊢
      rw [hplace, Node.withPosition_atPlaces]
  · exact ⟨_, _, (Node.atPlaces_self node).symm⟩

@[simp] theorem children_locate (context : Context) (location : Option Source.Location)
    (node : Node) (run : Run) :
    (locate context location node run).1.children = node.children := by
  obtain ⟨p, positions, hmoved⟩ := locate_eq context location node run
  rw [hmoved, Node.children_atPlaces]

@[simp] theorem parts_locate (context : Context) (location : Option Source.Location)
    (node : Node) (run : Run) : (locate context location node run).1.parts = node.parts := by
  obtain ⟨p, positions, hmoved⟩ := locate_eq context location node run
  rw [hmoved, Node.parts_atPlaces]

section
variable {admission : Admission} {source : Source.Node} {children : List Node}
  {content : Option Node} {run run' : Run} {result : Node}

/-- The rule makes the result, and the location of the source places it. -/
theorem Admission.complete_steps
    (h : admission.complete source children content run = (.ok result, run')) :
    ∃ made run₁,
      admission.rule.convert admission.context source children content run = (.ok made, run₁) ∧
        locate admission.context source.location made run₁ = (result, run') := by
  rw [complete] at h
  split at h
  · cases h
  · next made run₁ hmade =>
    refine ⟨made, run₁, hmade, ?_⟩
    cases h
    rfl

theorem Admission.complete_eq_ok
    (h : admission.complete source children content run = (.ok result, run')) :
    ∃ made run₁ p positions,
      admission.rule.convert admission.context source children content run = (.ok made, run₁) ∧
        result = made.atPlaces p positions := by
  obtain ⟨made, run₁, hmade, hlocate⟩ := complete_steps h
  obtain ⟨p, positions, hplaced⟩ := locate_eq admission.context source.location made run₁
  rw [hlocate] at hplaced
  exact ⟨made, run₁, p, positions, hmade, hplaced⟩

end

end MarkupTree

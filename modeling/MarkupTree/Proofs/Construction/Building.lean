import MarkupTree.Proofs.Construction.Spelling

namespace MarkupTree

theorem bind_eq_ok_iff {α β ε : Type} {x : Except ε α} {f : α → Except ε β} {b : β} :
    x >>= f = .ok b ↔ ∃ a, x = .ok a ∧ f a = .ok b := by
  cases x <;> simp [bind, Except.bind]

namespace Node

theorem childNodes_map_node (nodes : List Node) :
    childNodes (nodes.map Child.node) = .ok nodes := by
  induction nodes with
  | nil => rfl
  | cons node rest ih =>
    rw [List.map_cons, childNodes, ih]
    rfl

theorem tagName_eq_ok {space : Space} {name spelled : Value}
    (h : tagName space name = .ok spelled) (ht : spelled.truthy) :
    ∃ s, s ≠ "" ∧ name = .string s ∧ spelled = .string (space.elementName s) := by
  by_cases hname : name.truthy
  · cases name with
    | string s =>
      simp only [tagName, hname, if_true, Except.ok.injEq] at h
      subst h
      exact ⟨s, by simpa [Value.truthy] using hname, rfl, rfl⟩
    | _ => simp [tagName, hname] at h
  · unfold tagName at h
    rw [if_neg hname] at h
    cases h
    exact absurd ht hname

theorem tagName_string (space : Space) {s : String} (h : s ≠ "") :
    tagName space (.string s) = .ok (.string (space.elementName s)) := by
  simp [tagName, Value.truthy, h]

/-- Building succeeds for every name that is a text with characters, when the attributes can be
spelled and the children become nodes. -/
theorem build_of_children_eq_ok_iff {space : Space} {name : Value}
    {attributes : List (Value × Value)} {children : List Child} {element : Node} :
    build space name attributes children = .ok element ↔
      ∃ s spelled nodes, s ≠ "" ∧ name = .string s ∧
        spellAttributes space [] attributes = .ok spelled ∧ childNodes children = .ok nodes ∧
        element = ofTag ⟨.string (space.elementName s), spelled, none⟩ nodes := by
  simp only [build, bind_eq_ok_iff]
  -- An empty name is refused last, once the attributes and the children are read.
  constructor
  · rintro ⟨tag, htag, spelled, hspelled, nodes, hnodes, h⟩
    split at h
    · next ht =>
      obtain ⟨s, hs, rfl, rfl⟩ := tagName_eq_ok htag ht
      cases h
      exact ⟨s, spelled, nodes, hs, rfl, hspelled, hnodes, rfl⟩
    · cases h
  · rintro ⟨s, spelled, nodes, hs, rfl, hspelled, hnodes, rfl⟩
    have ht : (Value.string (space.elementName s)).truthy := by
      simpa [Value.truthy] using Space.elementName_ne_empty space hs
    exact ⟨_, tagName_string space hs, spelled, hspelled, nodes, hnodes, by rw [if_pos ht]; rfl⟩

theorem build_eq_ok_iff {space : Space} {name : Value} {attributes : List (Value × Value)}
    {children : List Node} {element : Node} :
    build space name attributes (children.map Child.node) = .ok element ↔
      ∃ s spelled, s ≠ "" ∧ name = .string s ∧ spellAttributes space [] attributes = .ok spelled ∧
        element = ofTag ⟨.string (space.elementName s), spelled, none⟩ children := by
  simp [build_of_children_eq_ok_iff, childNodes_map_node]

theorem ofTag_template (attributes : Entries String Value) (positions : Option TagPositions)
    (children : List Node) :
    ofTag ⟨.string "template", attributes, positions⟩ children =
      .element none ⟨.string "template", attributes, positions⟩ []
        (some (.root none false children)) := rfl

theorem ofTag_of_ne {name : String} (h : name ≠ "template") (attributes : Entries String Value)
    (positions : Option TagPositions) (children : List Node) :
    ofTag ⟨.string name, attributes, positions⟩ children =
      .element none ⟨.string name, attributes, positions⟩ children none := by
  unfold ofTag
  split
  · next he => exact absurd (Value.string.inj he) h
  · rfl

end Node

end MarkupTree

import MarkupTree.Proofs.Node.Sheet
import MarkupTree.Proofs.Value.Equality

namespace MarkupTree

section
variable {α : Type} {f : α → Value} {o o' : Option α}

theorem rel_of_sameOption_map {R : α → α → Prop} (hR : ∀ a ∈ o, ∀ b, f a == f b → R a b)
    (h : Value.SameOption (o.map f) (o'.map f)) : Option.Rel R o o' := by
  cases o with
  | none =>
    cases o' with
    | none => exact .none
    | some b => cases h
  | some a =>
    cases o' with
    | none => cases h
    | some b =>
      cases h with
      | some h => exact .some (hR a rfl b h)

theorem eq_of_sameOption_map (hf : ∀ a b, f a == f b → a = b)
    (h : Value.SameOption (o.map f) (o'.map f)) : o = o' := by
  cases rel_of_sameOption_map (R := Eq) (fun a _ => hf a) h with
  | none => rfl
  | some hab => rw [hab]

/-- No record is taken for a missing value. -/
theorem eq_of_ofOption_beq (hrecord : ∀ a, ∃ es, f a = .record es)
    (hf : ∀ a b, f a == f b → a = b)
    (h : Value.ofOption (o.map f) == Value.ofOption (o'.map f)) : o = o' := by
  refine eq_of_sameOption_map hf ?_
  cases o with
  | none =>
    cases o' with
    | none => exact .none
    | some b =>
      obtain ⟨es, hes⟩ := hrecord b
      simp [Value.ofOption, hes, BEq.beq, Value.same, Value.asNumber?] at h
  | some a =>
    cases o' with
    | none =>
      obtain ⟨es, hes⟩ := hrecord a
      simp [Value.ofOption, hes, BEq.beq, Value.same, Value.asNumber?] at h
    | some b => exact .some h

end

theorem Point.eq_of_record_beq (p q : Point) (h : p.record == q.record) : p = q := by
  obtain ⟨line, column, offset⟩ := p
  obtain ⟨line', column', offset'⟩ := q
  have hget := Value.get?_of_beq (by simp [Entries.keys]) h
  have hline : line = line' := by
    simpa [Entries.get?, Value.ofInt?_beq_iff] using hget "line"
  have hcolumn : column = column' := by
    simpa [Entries.get?, Value.ofInt?_beq_iff] using hget "column"
  have hoffset : offset = offset' := by
    simpa [Entries.get?, Value.ofInt?_beq_iff] using hget "offset"
  rw [hline, hcolumn, hoffset]

theorem Position.eq_of_record_beq (p q : Position) (h : p.record == q.record) : p = q := by
  obtain ⟨start, finish⟩ := p
  obtain ⟨start', finish'⟩ := q
  have hget := Value.get?_of_beq (by simp [Entries.keys]) h
  have hstart : start = start' := by
    refine eq_of_ofOption_beq (f := Point.record) (fun a => ⟨_, rfl⟩) Point.eq_of_record_beq ?_
    simpa [Entries.get?] using hget "start"
  have hfinish : finish = finish' := by
    refine eq_of_ofOption_beq (f := Point.record) (fun a => ⟨_, rfl⟩) Point.eq_of_record_beq ?_
    simpa [Entries.get?] using hget "end"
  rw [hstart, hfinish]

/-- The same places of tags, and those of the same properties in any order. -/
structure TagPositions.Matches (t t' : TagPositions) : Prop where
  opening : t.opening = t'.opening
  closing : t.closing = t'.closing
  properties : t.properties.Perm t'.properties

theorem TagPositions.matches_of_record_beq {t t' : TagPositions}
    (hkeys : (Entries.keys t.properties).Nodup) (h : t.record == t'.record) : t.Matches t' := by
  let side (p : Option Position) := Value.ofOption (p.map Position.record)
  have hside (p q : Option Position) (h : side p == side q) : p = q :=
    eq_of_ofOption_beq (fun a => ⟨_, rfl⟩) Position.eq_of_record_beq h
  have hget := Value.get?_of_beq (by simp [Entries.keys]) h
  constructor
  · exact hside _ _ (by simpa [Entries.get?] using hget "opening")
  · exact hside _ _ (by simpa [Entries.get?] using hget "closing")
  · refine Value.perm_of_record_beq (f := side) hkeys (fun p _ q => hside p.2 q) ?_
    simpa [Entries.get?] using hget "properties"

structure Tag.Matches (tag tag' : Tag) : Prop where
  name : tag.name == tag'.name
  attributes : tag.attributes.Perm tag'.attributes
  positions : Option.Rel TagPositions.Matches tag.positions tag'.positions

/-- Attributes have texts as values, and no attribute and no property has two entries. -/
structure Tag.Plain (tag : Tag) : Prop where
  texts : ∀ p ∈ tag.attributes, ∃ s, p.2 = .string s
  attributes : (Entries.keys tag.attributes).Nodup
  properties : ∀ t, tag.positions = some t → (Entries.keys t.properties).Nodup

namespace Node

inductive Matches : Node → Node → Prop
  | root {p : Option Position} {quirksMode : Bool} {children children' : List Node} :
      Matches (root p quirksMode children) (root p quirksMode children')
  | element {p : Option Position} {tag tag' : Tag} {children children' : List Node}
      {content content' : Option Node} (htag : tag.Matches tag') :
      Matches (element p tag children content) (element p tag' children' content')
  | literal {p : Option Position} {kind : LiteralKind} {value value' : Value}
      (hvalue : value == value') : Matches (literal p kind value) (literal p kind value')
  | doctype {p : Option Position} : Matches (doctype p) (doctype p)

/-- Two trees are the same node for node, up to the order of attributes and properties. -/
inductive Agrees : Node → Node → Prop
  | intro {a b : Node} (hself : a.Matches b) (hchildren : List.Forall₂ Agrees a.children b.children)
      (hcontent : Option.Rel Agrees a.content? b.content?) : Agrees a b

theorem nodup_keys_entries (node : Node) : (Entries.keys node.entries).Nodup := by
  cases node with
  | root p quirksMode children =>
    cases p <;> simp [entries, fields, Entries.keys, position, children?, content?]
  | element p tag children content =>
    obtain ⟨name, attributes, positions⟩ := tag
    cases p <;> cases positions <;> cases content <;>
      simp [entries, fields, Entries.keys, position, children?, content?]
  | literal p kind value =>
    cases p <;> simp [entries, fields, Entries.keys, position, children?, content?]
  | doctype p =>
    cases p <;> simp [entries, fields, Entries.keys, position, children?, content?]

section
variable {a b : Node} (h : a.record == b.record)
include h

theorem entry_of_record_beq (key : String) :
    Value.SameOption (Entries.get? key a.entries) (Entries.get? key b.entries) := by
  rw [record_eq, record_eq] at h
  exact Value.get?_of_beq a.nodup_keys_entries h key

theorem typeName_of_record_beq : a.typeName = b.typeName := by
  have htype : Value.string a.typeName == Value.string b.typeName := by
    simpa [entries, fields, Entries.get?] using entry_of_record_beq h "type"
  exact (Value.string.inj (Value.string_beq_iff.mp htype)).symm

theorem position_of_record_beq : a.position = b.position := by
  have hposition (node : Node) :
      Entries.get? "position" node.entries = node.position.map Position.record := by
    cases node <;> simp [entries, fields, Entries.get?]
  refine eq_of_sameOption_map Position.eq_of_record_beq ?_
  rw [← hposition, ← hposition]
  exact entry_of_record_beq h "position"

theorem content_of_record_beq :
    Value.SameOption (a.content?.map record) (b.content?.map record) := by
  have hcontent (node : Node) :
      Entries.get? "content" node.entries = node.content?.map record := by
    cases node <;> simp [entries, fields, Entries.get?]
  rw [← hcontent, ← hcontent]
  exact entry_of_record_beq h "content"

theorem children_of_record_beq :
    List.Forall₂ (fun x y => x.record == y.record) a.children b.children := by
  have hchildren (node : Node) : Entries.get? "children" node.entries =
      node.children?.map fun nodes => .list (nodes.map record) := by
    cases node <;> simp [entries, fields, Entries.get?]
  have hentry := entry_of_record_beq h "children"
  rw [hchildren, hchildren] at hentry
  rw [children, children]
  have hlists := rel_of_sameOption_map (R := List.Forall₂ fun x y => x.record == y.record)
    (fun xs _ ys hxy => by
      have hall := Value.list_beq hxy
      rwa [List.forall₂_map_left_iff, List.forall₂_map_right_iff] at hall) hentry
  generalize a.children? = xs at hlists
  generalize b.children? = ys at hlists
  cases hlists with
  | none => exact .nil
  | some hlists => exact hlists

end

theorem tag_matches_of_record_beq {p p' : Option Position} {tag tag' : Tag}
    {children children' : List Node} {content content' : Option Node} (hplain : tag.Plain)
    (h : (element p tag children content).record == (element p' tag' children' content').record) :
    tag.Matches tag' := by
  have hentry := entry_of_record_beq h
  refine ⟨?_, ?_, ?_⟩
  · simpa [entries, fields, Entries.get?] using hentry "tag_name"
  · refine Value.perm_of_record_beq (f := id) hplain.attributes (fun p hp w hw => ?_) ?_
    · obtain ⟨s, hs⟩ := hplain.texts p hp
      rw [hs, id_eq, id_eq, Value.string_beq_iff] at hw
      rw [hs, hw]
    · simpa [entries, fields, Entries.get?] using hentry "attributes"
  · refine rel_of_sameOption_map (f := TagPositions.record)
      (fun t ht t' => TagPositions.matches_of_record_beq (hplain.properties t ht)) ?_
    simpa [entries, fields, Entries.get?] using hentry "positions"

section
variable {a b : Node} (h : a.record == b.record)
include h

theorem matches_of_record_beq (hplain : ∀ tag, a.tag? = some tag → tag.Plain) : a.Matches b := by
  have htype := typeName_of_record_beq h
  have hposition := position_of_record_beq h
  cases a with
  | root p quirksMode children =>
    cases b with
    | root p' quirksMode' children' =>
      obtain rfl : p = p' := hposition
      obtain rfl : quirksMode = quirksMode' := by
        simpa [entries, fields, Entries.get?, Value.bool_beq_iff] using
          entry_of_record_beq h "quirks_mode"
      exact .root
    | literal _ kind _ => cases kind <;> simp [typeName, LiteralKind.name] at htype
    | _ => simp [typeName] at htype
  | element p tag children content =>
    cases b with
    | element p' tag' children' content' =>
      obtain rfl : p = p' := hposition
      exact .element (tag_matches_of_record_beq (hplain tag rfl) h)
    | literal _ kind _ => cases kind <;> simp [typeName, LiteralKind.name] at htype
    | _ => simp [typeName] at htype
  | literal p kind value =>
    cases b with
    | literal p' kind' value' =>
      obtain rfl : p = p' := hposition
      obtain rfl : kind = kind' := by
        cases kind <;> cases kind' <;> simp [typeName, LiteralKind.name] at htype ⊢
      refine .literal ?_
      simpa [entries, fields, Entries.get?] using entry_of_record_beq h "value"
    | _ => cases kind <;> simp [typeName, LiteralKind.name] at htype
  | doctype p =>
    cases b with
    | doctype p' =>
      obtain rfl : p = p' := hposition
      exact .doctype
    | literal _ kind _ => cases kind <;> simp [typeName, LiteralKind.name] at htype
    | _ => simp [typeName] at htype

end

/-- A tree can be read off its record: trees with equal records are the same node for node. -/
theorem agrees_of_toRecord_beq {a b : Node}
    (hplain : ∀ n ∈ a.preorder, ∀ tag, n.tag? = some tag → tag.Plain)
    (h : a.toRecord == b.toRecord) : a.Agrees b := by
  rw [toRecord_eq, toRecord_eq] at h
  induction a using parts_induction generalizing b with
  | parts a ih =>
    rw [preorder_eq, List.forall_mem_cons, List.forall_mem_flatMap] at hplain
    have hpart : ∀ part ∈ a.parts, ∀ other : Node, part.record == other.record →
        part.Agrees other :=
      fun part hp other => ih part hp (hplain.2 part hp)
    refine .intro (matches_of_record_beq h hplain.1) ?_ ?_
    · have hchildren := (List.forall₂_and_left _ _).mpr
        ⟨fun child hc => hpart child (List.mem_append_left _ hc), children_of_record_beq h⟩
      exact hchildren.imp fun child other hboth => hboth.1 other hboth.2
    · refine rel_of_sameOption_map (fun content hc => ?_) (content_of_record_beq h)
      exact hpart content (List.mem_append_right _ (Option.mem_toList.mpr hc))

def anchor (attributes : Entries String Value) (properties : Entries String (Option Position)) :
    Node :=
  .root none true
    [.element (some ⟨none, none⟩)
      ⟨.string "a", attributes, some ⟨some ⟨some ⟨some 1, some 1, none⟩, none⟩, none, properties⟩⟩
      [.literal none .cdata (.string "b")] (some (.doctype none))]

theorem plain_anchor : ∀ n ∈ (anchor [("href", .string "#"), ("class", .string "c")]
      [("href", none), ("className", some ⟨none, none⟩)]).preorder,
    ∀ tag, n.tag? = some tag → tag.Plain := by
  intro n hn tag htag
  simp only [anchor, preorder, preorderAll, List.append_nil, List.mem_cons, List.mem_append,
    List.not_mem_nil, or_false] at hn
  rcases hn with rfl | rfl | rfl | rfl
  · cases htag
  · cases htag
    refine ⟨by simp, by decide, fun t ht => ?_⟩
    cases ht
    decide
  · cases htag
  · cases htag

theorem agrees_of_toRecord_beq_anchor :
    let a := anchor [("href", .string "#"), ("class", .string "c")]
      [("href", none), ("className", some ⟨none, none⟩)]
    let b := anchor [("class", .string "c"), ("href", .string "#")]
      [("className", some ⟨none, none⟩), ("href", none)]
    (∀ n ∈ a.preorder, ∀ tag, n.tag? = some tag → tag.Plain) ∧ a.toRecord == b.toRecord ∧
      a.Agrees b := by
  intro a b
  have hrecord : a.toRecord == b.toRecord := by
    rw [toRecord_eq, toRecord_eq]
    decide
  exact ⟨plain_anchor, hrecord, agrees_of_toRecord_beq plain_anchor hrecord⟩

end Node

end MarkupTree

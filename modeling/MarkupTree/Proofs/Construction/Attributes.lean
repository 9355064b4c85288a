import MarkupTree.Proofs.Conversion.Rules
import MarkupTree.Proofs.Value.Equality

namespace MarkupTree

/-- Only a text with characters qualifies a name, and only a name that is a text. -/
theorem qualify_eq_ok {qualifier name qualified : Value}
    (h : qualify qualifier name = .ok qualified) :
    (∃ q n, q ≠ "" ∧ qualifier = .string q ∧ name = .string n ∧
      qualified = .string (q ++ ":" ++ n)) ∨ qualifier.truthy = false ∧ qualified = name := by
  unfold qualify at h
  split at h
  · next htruthy =>
    split at h
    · cases h
      exact .inl ⟨_, _, by simpa [Value.truthy] using htruthy, rfl, rfl, rfl⟩
    · cases h
  · next hfalsy =>
    cases h
    exact .inr ⟨by simpa using hfalsy, rfl⟩

namespace Source.Attribute

/-- An attribute whose name is a text, whose qualifier is null or a text, and that has a value. -/
def WellFormed (a : Source.Attribute) : Prop :=
  (∃ name, a.name = some (.string name)) ∧
    (a.qualifier = some .null ∨ ∃ q, a.qualifier = some (.string q)) ∧ a.value.isSome

def qualifiedName (a : Source.Attribute) : String :=
  let name := (Value.ofOption a.name).text
  match a.qualifier with
  | some (.string q) => if q = "" then name else q ++ ":" ++ name
  | _ => name

def named (a : Source.Attribute) : String × Value := (a.qualifiedName, .ofOption a.value)

theorem qualify_eq {a : Source.Attribute} (h : a.WellFormed) :
    ∃ qualifier name v, a.qualifier = some qualifier ∧ a.name = some name ∧ a.value = some v ∧
      qualify qualifier name = .ok (.string a.qualifiedName) := by
  obtain ⟨⟨name, hname⟩, hqualifier, hvalue⟩ := h
  obtain ⟨v, hv⟩ := Option.isSome_iff_exists.mp hvalue
  rcases hqualifier with hq | ⟨q, hq⟩
  · refine ⟨_, _, v, hq, hname, hv, ?_⟩
    simp [qualify, Value.truthy, qualifiedName, hname, hq, Value.ofOption, Value.text]
  · refine ⟨_, _, v, hq, hname, hv, ?_⟩
    by_cases hempty : q = "" <;>
      simp [qualify, Value.truthy, qualifiedName, hname, hq, Value.ofOption, Value.text, hempty]

theorem entry_eq {a : Source.Attribute} (h : a.WellFormed) :
    a.entry = .ok (.string a.named.1, a.named.2) := by
  obtain ⟨qualifier, name, v, hq, hname, hv, hqualified⟩ := qualify_eq h
  rw [entry, hq, hname, hv, named, hv]
  simp only [need, bind, Except.bind, hqualified]
  rfl

theorem eq_qualifiedName_of_entry {a : Source.Attribute} {key : String} {v : Value}
    (h : a.entry = .ok (.string key, v)) : key = a.qualifiedName := by
  simp only [entry, bind_eq_ok_iff, need_eq_ok_iff] at h
  obtain ⟨name, hname, qualifier, hqualifier, qualified, hqualify, value, -, h⟩ := h
  obtain rfl : qualified = .string key := by
    split at h <;> cases h
    rfl
  rcases qualify_eq_ok hqualify with ⟨q, n, hq, rfl, rfl, hkey⟩ | ⟨hfalsy, rfl⟩
  · cases hkey
    simp [qualifiedName, hname, hqualifier, Value.ofOption, Value.text, hq]
  · rw [qualifiedName, hname, hqualifier]
    split
    · next q hq =>
      cases hq
      rw [if_pos (by simpa [Value.truthy] using hfalsy)]
      rfl
    · rfl

theorem named_of_entry {a : Source.Attribute} {key : String} {v : Value}
    (h : a.entry = .ok (.string key, v)) : a.named = (key, v) := by
  have hkey := eq_qualifiedName_of_entry h
  simp only [entry, bind_eq_ok_iff, need_eq_ok_iff] at h
  obtain ⟨_, -, _, -, _, -, value, hvalue, h⟩ := h
  have hv : value = v := by
    split at h <;> cases h
    rfl
  rw [named, ← hkey, hvalue, hv]
  rfl

end Source.Attribute

def Entries.asValues (entries : Entries String Value) : Entries Value Value :=
  entries.map fun p => (.string p.1, p.2)

theorem Entries.put_asValues (name : String) (v : Value) (entries : Entries String Value) :
    put (.string name) v entries.asValues = (put name v entries).asValues := by
  induction entries with
  | nil => rfl
  | cons p rest ih =>
    obtain ⟨j, w⟩ := p
    -- Plain values are compared by value, and texts by what they are.
    have hbeq : ((Value.string j == Value.string name) : Bool) = (j == name) := rfl
    simp only [asValues, List.map_cons, put, hbeq] at ih ⊢
    split
    · rfl
    · rw [ih, List.map_cons]

theorem Entries.asValues_injective : Function.Injective asValues := by
  refine List.map_injective_iff.mpr fun p q h => ?_
  obtain ⟨hkey, hvalue⟩ := Prod.mk.inj h
  exact Prod.ext (Value.string.inj hkey) hvalue

theorem Entries.exists_asValues_of_put {name v : Value} {entries : Entries Value Value}
    {pairs : Entries String Value} (h : put name v entries = pairs.asValues) :
    ∃ key before, name = .string key ∧ entries = asValues before := by
  induction entries generalizing pairs with
  | nil =>
    obtain ⟨p, rfl, hp⟩ := List.map_eq_singleton_iff.mp h.symm
    exact ⟨p.1, [], (congrArg Prod.fst hp).symm, rfl⟩
  | cons q rest ih =>
    obtain ⟨k, w⟩ := q
    rw [put] at h
    split at h
    · next hkey =>
      obtain ⟨p, ps, rfl, hp, hrest⟩ := List.map_eq_cons_iff.mp h.symm
      obtain rfl : Value.string p.1 = k := congrArg Prod.fst hp
      exact ⟨p.1, (p.1, w) :: ps, Value.string_beq_iff.mp hkey, by rw [← hrest]; rfl⟩
    · obtain ⟨p, ps, rfl, hp, hrest⟩ := List.map_eq_cons_iff.mp h.symm
      obtain rfl : Value.string p.1 = k := congrArg Prod.fst hp
      obtain ⟨key, before, hname, rfl⟩ := ih hrest.symm
      exact ⟨key, (p.1, w) :: before, hname, rfl⟩

/-- Attributes are collected under their qualified names. -/
theorem readAttributes_asValues (done : Entries String Value) {attributes : List Source.Attribute}
    (h : ∀ a ∈ attributes, a.WellFormed) :
    readAttributes done.asValues attributes =
      .ok (((attributes.map Source.Attribute.named).foldl (fun entries p =>
        Entries.put p.1 p.2 entries) done).asValues) := by
  induction attributes generalizing done with
  | nil => rfl
  | cons a rest ih =>
    rw [readAttributes, Source.Attribute.entry_eq (h a List.mem_cons_self)]
    simp only [bind, Except.bind]
    rw [Entries.put_asValues, ih _ fun a ha => h a (List.mem_cons_of_mem _ ha)]
    rfl

theorem readAttributes_eq {attributes : List Source.Attribute}
    (h : ∀ a ∈ attributes, a.WellFormed) :
    readAttributes [] attributes =
      .ok (Entries.ofList (attributes.map Source.Attribute.named)).asValues :=
  readAttributes_asValues [] h

/-- Attributes that are collected under texts are collected under their qualified names, whatever
stands for a missing qualifier. -/
theorem eq_foldl_of_readAttributes {attributes : List Source.Attribute}
    {done : Entries Value Value} {pairs : Entries String Value}
    (h : readAttributes done attributes = .ok pairs.asValues) :
    ∃ before : Entries String Value, done = before.asValues ∧
      pairs = (attributes.map Source.Attribute.named).foldl
        (fun entries p => Entries.put p.1 p.2 entries) before := by
  induction attributes generalizing done with
  | nil =>
    cases h
    exact ⟨pairs, rfl, rfl⟩
  | cons a rest ih =>
    rw [readAttributes, bind_eq_ok_iff] at h
    obtain ⟨⟨name, v⟩, ha, hrest⟩ := h
    obtain ⟨after, hafter, rfl⟩ := ih hrest
    obtain ⟨key, before, rfl, rfl⟩ := Entries.exists_asValues_of_put hafter
    rw [Entries.put_asValues] at hafter
    refine ⟨before, rfl, ?_⟩
    rw [List.map_cons, List.foldl_cons, Source.Attribute.named_of_entry ha,
      Entries.asValues_injective hafter]

theorem exists_entry_of_readAttributes {attributes : List Source.Attribute}
    {done entries : Entries Value Value} (h : readAttributes done attributes = .ok entries)
    {key : Value} (hkey : key ∈ Entries.keys entries) :
    key ∈ Entries.keys done ∨ ∃ a ∈ attributes, ∃ v, a.entry = .ok (key, v) := by
  induction attributes generalizing done with
  | nil =>
    cases h
    exact .inl hkey
  | cons a rest ih =>
    rw [readAttributes, bind_eq_ok_iff] at h
    obtain ⟨⟨name, v⟩, ha, hrest⟩ := h
    rcases ih hrest with hdone | ⟨b, hb, hentry⟩
    · rcases Entries.mem_keys_of_mem_keys_put hdone with rfl | hdone
      · exact .inr ⟨a, List.mem_cons_self, v, ha⟩
      · exact .inl hdone
    · exact .inr ⟨b, List.mem_cons_of_mem _ hb, hentry⟩

theorem Node.exists_attributeName_of_spellAttributes {space : Space}
    {entries : List (Value × Value)} {done spelled : Entries String Value}
    (h : spellAttributes space done entries = .ok spelled) {key : String}
    (hkey : key ∈ Entries.keys spelled) : key ∈ Entries.keys done ∨
      ∃ name, .string name ∈ Entries.keys entries ∧ key = space.attributeName name := by
  induction entries generalizing done with
  | nil =>
    cases h
    exact .inl hkey
  | cons p rest ih =>
    obtain ⟨name, v⟩ := p
    cases name with
    | string name =>
      rcases ih h with hdone | ⟨other, hother, hspelled⟩
      · rcases Entries.mem_keys_of_mem_keys_put hdone with hself | hdone
        · exact .inr ⟨name, List.mem_cons_self, hself⟩
        · exact .inl hdone
      · exact .inr ⟨other, List.mem_cons_of_mem _ hother, hspelled⟩
    | _ => cases h

theorem exists_attributeName_of_mem_keys {space : Space} {attributes : List Source.Attribute}
    {entries : Entries Value Value} {spelled : Entries String Value}
    (hread : readAttributes [] attributes = .ok entries)
    (hspell : Node.spellAttributes space [] entries = .ok spelled) {key : String}
    (hkey : key ∈ Entries.keys spelled) :
    ∃ a ∈ attributes, key = space.attributeName a.qualifiedName := by
  rcases Node.exists_attributeName_of_spellAttributes hspell hkey with hnone | ⟨name, hname, rfl⟩
  · cases hnone
  · rcases exists_entry_of_readAttributes hread hname with hnone | ⟨a, ha, v, hentry⟩
    · cases hnone
    · exact ⟨a, ha, by rw [Source.Attribute.eq_qualifiedName_of_entry hentry]⟩

theorem Node.spellAttributes_asValues (space : Space) (done entries : Entries String Value) :
    spellAttributes space done entries.asValues =
      .ok ((entries.map fun p => (space.attributeName p.1, attributeText p.2)).foldl
        (fun done p => Entries.put p.1 p.2 done) done) := by
  induction entries generalizing done with
  | nil => rfl
  | cons p rest ih => exact ih _

theorem Node.exists_asValues_of_spellAttributes {space : Space} {entries : List (Value × Value)}
    {done spelled : Entries String Value} (h : spellAttributes space done entries = .ok spelled) :
    ∃ pairs, entries = Entries.asValues pairs := by
  induction entries generalizing done with
  | nil => exact ⟨[], rfl⟩
  | cons p rest ih =>
    obtain ⟨name, v⟩ := p
    cases name with
    | string name =>
      obtain ⟨pairs, rfl⟩ := ih h
      exact ⟨(name, v) :: pairs, rfl⟩
    | _ => cases h

theorem Node.spellAttributes_eq (space : Space) (pairs : List (String × Value)) :
    spellAttributes space [] (Entries.ofList pairs).asValues =
      .ok (Entries.renamed space.attributeName attributeText pairs) :=
  spellAttributes_asValues space [] _

/-- The attributes of an element are collected under their qualified names and then under the
spelling of these. -/
theorem eq_renamed_of_spellAttributes {space : Space} {attributes : List Source.Attribute}
    {entries : Entries Value Value} {spelled : Entries String Value}
    (hread : readAttributes [] attributes = .ok entries)
    (hspell : Node.spellAttributes space [] entries = .ok spelled) :
    spelled = Entries.renamed space.attributeName Node.attributeText
      (attributes.map Source.Attribute.named) := by
  obtain ⟨pairs, rfl⟩ := Node.exists_asValues_of_spellAttributes hspell
  obtain ⟨before, hbefore, rfl⟩ := eq_foldl_of_readAttributes hread
  obtain rfl := List.map_eq_nil_iff.mp hbefore.symm
  exact Except.ok.inj (hspell.symm.trans (Node.spellAttributes_eq space _))

end MarkupTree

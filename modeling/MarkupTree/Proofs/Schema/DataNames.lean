import Mathlib
import MarkupTree.Proofs.Schema.CaseForms
import MarkupTree.Proofs.Schema.Names
import MarkupTree.Proofs.Text.Lowercase

namespace MarkupTree

namespace Text

theorem upperChar_of_ascii {c : Char} (h : c.toNat < 128) : upperChar c = [c.toUpper] := by
  rw [upperChar, if_pos h]

theorem ofNat_ne_dash {n : Nat} (h : n ≠ 45) : Char.ofNat n ≠ '-' := by
  intro hdash
  by_cases hn : n.isValidChar
  · have hval := congrArg Char.toNat hdash
    rw [Char.toNat_ofNat, if_pos hn] at hval
    exact h hval
  · rw [Char.ofNat, dif_neg hn] at hdash
    exact absurd hdash (by decide)

theorem toUpper_ne_dash {c : Char} (hc : c ≠ '-') : c.toUpper ≠ '-' := by
  by_cases hlower : c.isLower
  · intro hdash
    have hupper : c.toUpper.isUpper := by simp [Char.isAlpha, hlower]
    rw [hdash] at hupper
    exact absurd hupper (by decide)
  · rwa [Char.toUpper_eq_of_not_isLower hlower]

/-- Upper case comes from ASCII, from the list of characters with more than one, or from a range. -/
theorem upperChar_cases (c : Char) : upperChar c = [c.toUpper] ∨
    (∃ codes, (c.toNat, codes) ∈ uppercaseExpansions ∧ upperChar c = codes.map Char.ofNat) ∨
      upperChar c = [mapCase uppercaseRanges c] := by
  unfold upperChar
  split
  · exact .inl rfl
  · split
    · next codes hcodes =>
      obtain ⟨before, after, hsplit, -⟩ := List.lookup_eq_some_iff.mp hcodes
      exact .inr (.inl ⟨codes, by simp [hsplit], rfl⟩)
    · exact .inr (.inr rfl)

theorem upperChar_ne_nil (c : Char) : upperChar c ≠ [] := by
  have hexpansions : ∀ p ∈ uppercaseExpansions, p.2 ≠ [] := by decide +kernel
  rcases upperChar_cases c with h | ⟨codes, hmem, h⟩ | h
  · simp [h]
  · rw [h]
    exact mt List.map_eq_nil_iff.mp (hexpansions _ hmem)
  · simp [h]

/-- Upper case makes a dash of nothing else. -/
theorem dash_notMem_upperChar {c : Char} (hc : c ≠ '-') : '-' ∉ upperChar c := by
  have hexpansions : ∀ p ∈ uppercaseExpansions, ∀ n ∈ p.2, n ≠ 45 := by decide +kernel
  have htargets : ∀ r ∈ uppercaseRanges, 45 < r.target := by decide +kernel
  rcases upperChar_cases c with h | ⟨codes, hmem, h⟩ | h
  · rw [h, List.mem_singleton]
    exact (toUpper_ne_dash hc).symm
  · rw [h]
    intro hdash
    obtain ⟨n, hn, hchar⟩ := List.mem_map.mp hdash
    exact ofNat_ne_dash (hexpansions _ hmem n hn) hchar
  · rw [h, List.mem_singleton, mapCase]
    split
    · next r hr =>
      have hlarge := htargets r (List.mem_of_find?_eq_some hr)
      exact (ofNat_ne_dash (by omega)).symm
    · exact hc.symm

theorem ascii_of_toLower {c : Char} (h : c.toLower.toNat < 128) : c.toNat < 128 := by
  by_cases hupper : c.isUpper
  · simp only [Char.isUpper, decide_eq_true_eq, UInt32.le_iff_toNat_le] at hupper
    exact Nat.lt_of_le_of_lt hupper.2 (by decide)
  · rwa [Char.toLower_eq_of_not_isUpper hupper] at h

end Text

namespace Schema

/-- What may follow `data`: characters of data names, and one line feed after them. -/
def IsDataSuffix (suffix : List Char) : Prop :=
  ∃ body, body ≠ [] ∧ (∀ c ∈ body, isDataChar c) ∧ (suffix = body ∨ suffix = body ++ ['\n'])

theorem dropFinalNewline_of_isDataChar {cs : List Char} (h : ∀ c ∈ cs, isDataChar c) :
    dropFinalNewline cs = cs := by
  refine if_neg fun hlast => ?_
  have hnewline := h '\n' (List.mem_of_getLast? hlast)
  revert hnewline
  decide +kernel

theorem isDataSuffix_iff {suffix : List Char} : IsDataSuffix suffix ↔
    dropFinalNewline suffix ≠ [] ∧ ∀ c ∈ dropFinalNewline suffix, isDataChar c := by
  constructor
  · rintro ⟨body, hne, hbody, rfl | rfl⟩
    · rw [dropFinalNewline_of_isDataChar hbody]
      exact ⟨hne, hbody⟩
    · simpa [dropFinalNewline] using ⟨hne, hbody⟩
  · rintro ⟨hne, hbody⟩
    refine ⟨_, hne, hbody, ?_⟩
    unfold dropFinalNewline
    split
    · next hlast => exact .inr (List.dropLast_append_getLast? _ hlast).symm
    · exact .inl rfl

/-- A data name starts with `data` in ASCII letters of either case. -/
theorem dataSuffix?_eq_some_iff {cs suffix : List Char} : dataSuffix? cs = some suffix ↔
    ∃ d a t b, cs = d :: a :: t :: b :: suffix ∧
      [d, a, t, b].map Char.toLower = ['d', 'a', 't', 'a'] ∧ IsDataSuffix suffix := by
  unfold dataSuffix?
  split
  · next d a t b rest =>
    simp only [Option.ite_none_right_eq_some, Option.some.injEq]
    constructor
    · rintro ⟨haccepted, rfl⟩
      refine ⟨d, a, t, b, rfl, ?_⟩
      simpa [isDataSuffix_iff, and_assoc] using haccepted
    · rintro ⟨d, a, t, b, hcs, hdata⟩
      cases hcs
      refine ⟨?_, rfl⟩
      simpa [isDataSuffix_iff, and_assoc] using hdata
  · next hshort =>
    refine ⟨nofun, ?_⟩
    rintro ⟨d, a, t, b, rfl, -⟩
    exact (hshort d a t b suffix rfl).elim

theorem IsDataSuffix.ne_nil {suffix : List Char} (h : IsDataSuffix suffix) : suffix ≠ [] := by
  obtain ⟨body, hne, -, rfl | rfl⟩ := h
  · exact hne
  · simp

theorem IsDataSuffix.of_forall {suffix : List Char} (hne : suffix ≠ [])
    (h : ∀ c ∈ suffix, isDataChar c) : IsDataSuffix suffix :=
  ⟨suffix, hne, h, .inl rfl⟩

def dataName (suffix : List Char) : String := "data" ++ String.ofList suffix

@[simp] theorem toList_dataName (suffix : List Char) :
    (dataName suffix).toList = 'd' :: 'a' :: 't' :: 'a' :: suffix := by
  simp [dataName]

theorem dataName_injective : Function.Injective dataName := by
  intro suffix suffix' h
  simpa using congrArg String.toList h

theorem ofList_data (suffix : List Char) :
    String.ofList ('d' :: 'a' :: 't' :: 'a' :: suffix) = dataName suffix := by
  simp [← String.toList_inj]

def attributeRest (rest : List Char) : List Char :=
  match dashCase rest with
  | '-' :: dashed => dashed
  | dashed => dashed

def propertyRest (rest : List Char) : List Char := capitalize (camelCase rest)

theorem ofList_dataProperty (rest : List Char) :
    String.ofList (dataProperty rest) = dataName (propertyRest rest) := ofList_data _

theorem ofList_dataAttribute (rest : List Char) :
    String.ofList (dataAttribute rest) = dataName ('-' :: attributeRest rest) := by
  rw [← ofList_data, dataAttribute, attributeRest]
  split <;> simp_all

theorem dataSuffix?_dataName {suffix : List Char} (h : IsDataSuffix suffix) :
    dataSuffix? (dataName suffix).toList = some suffix :=
  dataSuffix?_eq_some_iff.mpr ⟨_, _, _, _, toList_dataName suffix, rfl, h⟩

theorem resolve_of_lookup?_eq_none {schema : Schema} {name : String}
    (h : schema.lookup? name = none) :
    schema.resolve name = (ofDataName? schema.space name).getD ⟨name, name, none⟩ := by
  rw [resolve, h]

section Forms
variable (space : Option String) {name : String} {rest : List Char}

theorem ofDataName?_attributeForm (h : dataSuffix? name.toList = some ('-' :: rest)) :
    ofDataName? space name = some ⟨dataName (propertyRest rest), name, space⟩ := by
  rw [ofDataName?, h, ← ofList_dataProperty]
  rfl

theorem ofDataName?_propertyForm (h : dataSuffix? name.toList = some rest)
    (hdash : rest.head? ≠ some '-') :
    ofDataName? space name = some ⟨name, dataName ('-' :: attributeRest rest), space⟩ := by
  rw [ofDataName?, h]
  split
  · next hsome =>
    cases hsome
    exact absurd rfl hdash
  · next hsome =>
    cases hsome
    rw [ofList_dataAttribute]
  · next hnone => cases hnone

end Forms

theorem goesPastData_of_toLower {d a t b : Char} {suffix : List Char}
    (h : [d, a, t, b].map Char.toLower = ['d', 'a', 't', 'a']) (hne : suffix ≠ []) :
    goesPastData (d :: a :: t :: b :: suffix) := by
  have hascii {c l : Char} (hc : c.toLower = l) (hl : l.toNat < 128) : c.toNat < 128 :=
    Text.ascii_of_toLower (hc ▸ hl)
  simp only [List.map_cons, List.map_nil, List.cons.injEq, and_true] at h
  obtain ⟨hd, ha, ht, hb⟩ := h
  rw [goesPastData, Text.lowerFrom_cons_of_ascii (hascii hd (by decide)),
    Text.lowerFrom_cons_of_ascii (hascii ha (by decide)),
    Text.lowerFrom_cons_of_ascii (hascii ht (by decide)),
    Text.lowerFrom_cons_of_ascii (hascii hb (by decide)), hd, ha, ht, hb]
  simpa using mt (Text.lowerFrom_eq_nil_iff _ _).mp hne

section Resolve
variable (space : Space) {name : String} {rest : List Char}

/-- No listed name comes before the rule for data names. -/
theorem lookup?_of_dataSuffix? (h : dataSuffix? name.toList = some rest) :
    (ofSpace space).lookup? name = none := by
  obtain ⟨d, a, t, b, hname, hdata, hsuffix⟩ := dataSuffix?_eq_some_iff.mp h
  apply lookup?_of_goesPastData
  rw [hname]
  exact goesPastData_of_toLower hdata hsuffix.ne_nil

theorem resolve_attributeForm (h : dataSuffix? name.toList = some ('-' :: rest)) :
    (ofSpace space).resolve name = ⟨dataName (propertyRest rest), name, some space.name⟩ := by
  rw [resolve_of_lookup?_eq_none (lookup?_of_dataSuffix? space h), ofDataName?_attributeForm _ h,
    space_ofSpace, Option.getD_some]

theorem resolve_propertyForm (h : dataSuffix? name.toList = some rest)
    (hdash : rest.head? ≠ some '-') : (ofSpace space).resolve name =
      ⟨name, dataName ('-' :: attributeRest rest), some space.name⟩ := by
  rw [resolve_of_lookup?_eq_none (lookup?_of_dataSuffix? space h),
    ofDataName?_propertyForm _ h hdash, space_ofSpace, Option.getD_some]

end Resolve

/-- A digit or one of the marks that are neither large nor small. -/
def isMark (c : Char) : Bool := c.isDigit || c == '_' || c == '.' || c == ':' || c == '-'

structure AttributeRest (rest : List Char) : Prop where
  nonempty : rest ≠ []
  chars : ∀ c ∈ rest, c.isLower ∨ isMark c
  start : ∀ c ∈ rest.head?, c ≠ '-'

/-- Letters, digits and marks, of which the first is neither a dash nor small, and with no dash
before a small letter. -/
structure PropertyRest (rest : List Char) : Prop where
  nonempty : rest ≠ []
  chars : ∀ c ∈ rest, c.isUpper ∨ c.isLower ∨ isMark c
  start : ∀ c ∈ rest.head?, c ≠ '-' ∧ ¬c.isLower
  undashed : Undashed rest

theorem ascii_of_letterOrMark {c : Char} (h : c.isUpper ∨ c.isLower ∨ isMark c) :
    c.toNat < 128 := by
  simp only [isMark, Char.isUpper, Char.isLower, Char.isDigit, Bool.or_eq_true, Bool.and_eq_true,
    decide_eq_true_eq, beq_iff_eq, UInt32.le_iff_toNat_le, ge_iff_le] at h
  have hval : c.val.toNat = c.toNat := rfl
  rcases h with ⟨-, h⟩ | ⟨-, h⟩ | ((((⟨-, h⟩ | rfl) | rfl) | rfl) | rfl)
  · exact Nat.lt_of_le_of_lt h (by decide)
  · exact Nat.lt_of_le_of_lt h (by decide)
  · exact Nat.lt_of_le_of_lt h (by decide)
  all_goals decide

theorem isDataChar_of_letterOrMark {c : Char} (h : c.isUpper ∨ c.isLower ∨ isMark c) :
    isDataChar c :=
  Text.forall_ascii (P := fun c => c.isUpper ∨ c.isLower ∨ isMark c → isDataChar c)
    (by decide +kernel) (ascii_of_letterOrMark h) h

theorem isMark_plain {c : Char} (h : isMark c) : ¬c.isUpper ∧ ¬c.isLower :=
  Text.forall_ascii (P := fun c => isMark c → ¬c.isUpper ∧ ¬c.isLower) (by decide +kernel)
    (ascii_of_letterOrMark (.inr (.inr h))) h

section Rest
variable {c : Char} {cs rest : List Char}

theorem propertyRest_cons (hascii : c.toNat < 128) (hdash : c ≠ '-') :
    propertyRest (c :: cs) = c.toUpper :: camelCase cs := by
  rw [propertyRest, camelCase_cons fun h => absurd h hdash, capitalize,
    Text.upperChar_of_ascii hascii, List.singleton_append]

theorem attributeRest_cons (hdash : c ≠ '-') :
    attributeRest (c :: cs) = c.toLower :: dashCase cs := by
  rw [attributeRest]
  by_cases hc : c.isUpper
  · rw [dashCase_of_isUpper hc]
    rfl
  · rw [dashCase_of_not_isUpper hc, Char.toLower_eq_of_not_isUpper hc]
    split
    · next h => exact absurd (List.cons.inj h).1 hdash
    · rfl

namespace AttributeRest

theorem not_isUpper (h : AttributeRest rest) : ∀ c ∈ rest, ¬c.isUpper := by
  intro c hc
  rcases h.chars c hc with hlower | hmark
  · exact Char.not_isUpper_of_isLower hlower
  · exact (isMark_plain hmark).1

theorem toUpper_ne_dash (h : AttributeRest (c :: cs)) : c.toUpper ≠ '-' :=
  Text.toUpper_ne_dash (h.start c rfl)

theorem propertyRest_eq (h : AttributeRest (c :: cs)) :
    propertyRest (c :: cs) = c.toUpper :: camelCase cs :=
  propertyRest_cons (ascii_of_letterOrMark (.inr (h.chars c List.mem_cons_self))) (h.start c rfl)

theorem toProperty (h : AttributeRest rest) : PropertyRest (propertyRest rest) := by
  obtain ⟨c, cs, rfl⟩ := List.exists_cons_of_ne_nil h.nonempty
  rw [h.propertyRest_eq]
  have hchars : ∀ d ∈ c :: cs, d.isUpper ∨ d.isLower ∨ isMark d := fun d hd => .inr (h.chars d hd)
  obtain ⟨hself, hrest⟩ := List.forall_mem_cons.mp hchars
  refine ⟨List.cons_ne_nil _ _, List.forall_mem_cons.mpr ⟨?_, ?_⟩, ?_, ?_⟩
  · by_cases hlower : c.isLower
    · exact .inl (by simp [Char.isAlpha, hlower])
    · rwa [Char.toUpper_eq_of_not_isLower hlower]
  · exact forall_mem_camelCase hrest fun d hd => .inl hd
  · intro d hd
    obtain rfl := Option.some.inj hd
    exact ⟨h.toUpper_ne_dash, by simp⟩
  · exact List.isChain_cons.mpr ⟨fun d _ hdash => absurd hdash h.toUpper_ne_dash,
      undashed_camelCase cs⟩

theorem attributeRest_propertyRest (h : AttributeRest rest) :
    attributeRest (propertyRest rest) = rest := by
  obtain ⟨c, cs, rfl⟩ := List.exists_cons_of_ne_nil h.nonempty
  obtain ⟨hself, hrest⟩ := List.forall_mem_cons.mp h.not_isUpper
  rw [h.propertyRest_eq, attributeRest_cons h.toUpper_ne_dash, Char.toLower_toUpper_eq_toLower,
    Char.toLower_eq_of_not_isUpper hself, dashCase_camelCase hrest]

end AttributeRest

namespace PropertyRest

theorem toLower_ne_dash (h : PropertyRest (c :: cs)) : c.toLower ≠ '-' := by
  by_cases hupper : c.isUpper
  · intro hdash
    have hlower : c.toLower.isLower := by simp [Char.isAlpha, hupper]
    rw [hdash] at hlower
    exact absurd hlower (by decide)
  · rw [Char.toLower_eq_of_not_isUpper hupper]
    exact (h.start c rfl).1

theorem toLower_small (h : PropertyRest (c :: cs)) : c.toLower.isLower ∨ isMark c.toLower := by
  rcases h.chars c List.mem_cons_self with hupper | hlower | hmark
  · exact .inl (by simp [Char.isAlpha, hupper])
  · exact absurd hlower (h.start c rfl).2
  · rw [Char.toLower_eq_of_not_isUpper (isMark_plain hmark).1]
    exact .inr hmark

theorem attributeRest_eq (h : PropertyRest (c :: cs)) :
    attributeRest (c :: cs) = c.toLower :: dashCase cs := attributeRest_cons (h.start c rfl).1

theorem toAttribute (h : PropertyRest rest) : AttributeRest (attributeRest rest) := by
  obtain ⟨c, cs, rfl⟩ := List.exists_cons_of_ne_nil h.nonempty
  rw [h.attributeRest_eq]
  refine ⟨List.cons_ne_nil _ _, List.forall_mem_cons.mpr ⟨h.toLower_small, ?_⟩, ?_⟩
  · refine forall_mem_dashCase (fun d hd hno => ?_) (fun d hd => .inl hd) (.inr rfl)
    exact (h.chars d (List.mem_cons_of_mem _ hd)).resolve_left hno
  · intro d hd
    obtain rfl := Option.some.inj hd
    exact h.toLower_ne_dash

theorem propertyRest_attributeRest (h : PropertyRest rest) :
    propertyRest (attributeRest rest) = rest := by
  obtain ⟨c, cs, rfl⟩ := List.exists_cons_of_ne_nil h.nonempty
  have hascii := ascii_of_letterOrMark (.inr h.toLower_small)
  rw [h.attributeRest_eq, propertyRest_cons hascii h.toLower_ne_dash,
    Char.toUpper_toLower_eq_toUpper, Char.toUpper_eq_of_not_isLower (h.start c rfl).2,
    camelCase_dashCase (List.isChain_cons.mp h.undashed).2]

end PropertyRest

end Rest

/-- The attributes of small ASCII letters, digits and marks with one dash after `data`. -/
def dataAttributes : Set String :=
  { name | ∃ rest, AttributeRest rest ∧ name = "data-" ++ String.ofList rest }

def dataProperties : Set String :=
  { name | ∃ rest, PropertyRest rest ∧ name = "data" ++ String.ofList rest }

theorem dataName_dash (rest : List Char) :
    dataName ('-' :: rest) = "data-" ++ String.ofList rest := by
  simp [dataName, ← String.toList_inj]

section Correspondence
variable (space : Space) {rest : List Char}

theorem AttributeRest.resolve (h : AttributeRest rest) :
    (ofSpace space).resolve (dataName ('-' :: rest)) =
      ⟨dataName (propertyRest rest), dataName ('-' :: rest), some space.name⟩ := by
  apply resolve_attributeForm
  apply dataSuffix?_dataName
  exact .of_forall (List.cons_ne_nil _ _) (List.forall_mem_cons.mpr
    ⟨rfl, fun c hc => isDataChar_of_letterOrMark (.inr (h.chars c hc))⟩)

theorem PropertyRest.resolve (h : PropertyRest rest) :
    (ofSpace space).resolve (dataName rest) =
      ⟨dataName rest, dataName ('-' :: attributeRest rest), some space.name⟩ := by
  refine resolve_propertyForm space (dataSuffix?_dataName ?_) fun hdash => (h.start _ hdash).1 rfl
  exact .of_forall h.nonempty fun c hc => isDataChar_of_letterOrMark (h.chars c hc)

theorem AttributeRest.resolve_property (h : AttributeRest rest) :
    (ofSpace space).resolve ((ofSpace space).resolve (dataName ('-' :: rest))).property =
      (ofSpace space).resolve (dataName ('-' :: rest)) := by
  rw [h.resolve, h.toProperty.resolve, h.attributeRest_propertyRest]

theorem PropertyRest.resolve_attr (h : PropertyRest rest) :
    (ofSpace space).resolve ((ofSpace space).resolve (dataName rest)).attr =
      (ofSpace space).resolve (dataName rest) := by
  rw [h.resolve, h.toAttribute.resolve, h.propertyRest_attributeRest]

/-- Attributes and properties of data names stand for each other: in each space every one of them is
found again from what it resolves to, as the same entry, and no two share what they resolve to. -/
theorem resolve_data_bijOn :
    (∀ v ∈ dataAttributes,
      ((ofSpace space).resolve ((ofSpace space).resolve v).property).attr = v ∧
        (ofSpace space).resolve ((ofSpace space).resolve v).property = (ofSpace space).resolve v) ∧
    (∀ p ∈ dataProperties,
      ((ofSpace space).resolve ((ofSpace space).resolve p).attr).property = p ∧
        (ofSpace space).resolve ((ofSpace space).resolve p).attr = (ofSpace space).resolve p) ∧
    Set.BijOn (fun v => ((ofSpace space).resolve v).property) dataAttributes dataProperties ∧
    Set.BijOn (fun p => ((ofSpace space).resolve p).attr) dataProperties dataAttributes := by
  have hattributes : ∀ v ∈ dataAttributes,
      ((ofSpace space).resolve v).property ∈ dataProperties ∧
        ((ofSpace space).resolve ((ofSpace space).resolve v).property).attr = v ∧
        (ofSpace space).resolve ((ofSpace space).resolve v).property =
          (ofSpace space).resolve v := by
    rintro _ ⟨rest, h, rfl⟩
    rw [← dataName_dash, h.resolve_property, h.resolve]
    exact ⟨⟨_, h.toProperty, rfl⟩, rfl, rfl⟩
  have hproperties : ∀ p ∈ dataProperties,
      ((ofSpace space).resolve p).attr ∈ dataAttributes ∧
        ((ofSpace space).resolve ((ofSpace space).resolve p).attr).property = p ∧
        (ofSpace space).resolve ((ofSpace space).resolve p).attr = (ofSpace space).resolve p := by
    rintro _ ⟨rest, h, rfl⟩
    rw [← dataName, h.resolve_attr, h.resolve]
    exact ⟨⟨_, h.toAttribute, dataName_dash _⟩, rfl, rfl⟩
  have hinverse : Set.InvOn (fun p => ((ofSpace space).resolve p).attr)
      (fun v => ((ofSpace space).resolve v).property) dataAttributes dataProperties :=
    ⟨fun v hv => (hattributes v hv).2.1, fun p hp => (hproperties p hp).2.1⟩
  refine ⟨fun v hv => (hattributes v hv).2, fun p hp => (hproperties p hp).2, ?_, ?_⟩
  · exact hinverse.bijOn (fun v hv => (hattributes v hv).1) fun p hp => (hproperties p hp).1
  · exact hinverse.symm.bijOn (fun p hp => (hproperties p hp).1) fun v hv => (hattributes v hv).1

/-- Dashes in a row, a dash before a digit and a dash at the end, and a property that starts with a
digit. -/
theorem resolve_data_bijOn_dashes :
    "data-x--y-1-" ∈ dataAttributes ∧
      (html.resolve (html.resolve "data-x--y-1-").property).attr = "data-x--y-1-" ∧
      "data1AB-C" ∈ dataProperties ∧
      (svg.resolve (svg.resolve "data1AB-C").attr).property = "data1AB-C" := by
  have hattribute : "data-x--y-1-" ∈ dataAttributes :=
    ⟨['x', '-', '-', 'y', '-', '1', '-'], ⟨by simp, by simp [isMark], by simp⟩, by decide⟩
  have hproperty : "data1AB-C" ∈ dataProperties :=
    ⟨['1', 'A', 'B', '-', 'C'], ⟨by simp, by simp [isMark], by simp, by simp [Undashed]⟩,
      by decide⟩
  exact ⟨hattribute, ((resolve_data_bijOn .html).1 _ hattribute).1, hproperty,
    ((resolve_data_bijOn .svg).2.1 _ hproperty).1⟩

end Correspondence

end Schema

end MarkupTree

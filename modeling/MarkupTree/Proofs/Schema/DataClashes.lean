import Mathlib
import MarkupTree.Placement
import MarkupTree.Proofs.Schema.DataNames

namespace MarkupTree

namespace Schema

/-- The name of a data attribute without ASCII capitals, which has the given rest after `data-`. -/
structure IsDataAttribute (name : String) (rest : List Char) : Prop where
  spelled : name = "data-" ++ String.ofList rest
  nonempty : rest ≠ []
  accepted : (dataSuffix? name.toList).isSome
  uncapitalized : ∀ c ∈ name.toList, ¬c.isUpper

def Doubles (r s : List Char) : Prop := r = '-' :: s ∧ ∃ c ∈ s.head?, c.isLower

/-- One of the rests does not start with an ASCII character, and they are the same once their first
characters are in upper case, a capital ASCII letter being written with a dash. -/
def Recased (r s : List Char) : Prop :=
  ((∃ c ∈ r.head?, 128 ≤ c.toNat) ∨ ∃ c ∈ s.head?, 128 ≤ c.toNat) ∧
    dashCase (capitalize r) = dashCase (capitalize s)

def Clash (r s : List Char) : Prop := Doubles r s ∨ Doubles s r ∨ Recased r s

theorem undashed_propertyRest (r : List Char) : Undashed (propertyRest r) := by
  have hcamel := undashed_camelCase r
  rw [propertyRest]
  cases hcs : camelCase r with
  | nil => exact .nil
  | cons c cs =>
    rw [hcs] at hcamel
    by_cases hc : c = '-'
    · subst hc
      exact hcamel
    · have hupper := Text.dash_notMem_upperChar hc
      have hne {d : Char} (hd : d ∈ Text.upperChar c) : d ≠ '-' := fun h => hupper (h ▸ hd)
      refine List.isChain_append.mpr ⟨?_, (List.isChain_cons.mp hcamel).2, ?_⟩
      · exact (List.pairwise_of_forall_mem_list fun d hd _ _ h => absurd h (hne hd)).isChain
      · exact fun d hd _ _ h => absurd h (hne (List.mem_of_getLast? hd))

/-- With dashes, the camel case of a text without capitals differs from it in the first character
alone. -/
theorem dashCase_propertyRest {r : List Char} (h : ∀ c ∈ r, ¬c.isUpper) :
    dashCase (propertyRest r) = dashCase (capitalize r) := by
  cases r with
  | nil => rfl
  | cons c cs =>
    have hcs := (List.forall_mem_cons.mp h).2
    by_cases hdash : c = '-' → ∀ d ∈ cs.head?, ¬d.isLower
    · rw [propertyRest, camelCase_cons hdash, capitalize, capitalize, dashCase_append,
        dashCase_camelCase hcs, dashCase_append, dashCase_eq_self hcs]
    · push Not at hdash
      obtain ⟨rfl, d, hd, hlower⟩ := hdash
      obtain ⟨ds, rfl⟩ := List.head?_eq_some_iff.mp hd
      have hupper : d.toUpper.isUpper := by simp [Char.isAlpha, hlower]
      have hascii := ascii_of_letterOrMark (.inl hupper)
      -- The dash makes a capital of the letter, which is read back as the dash and the letter.
      rw [propertyRest, camelCase_dash hlower, capitalize, Text.upperChar_of_ascii hascii,
        Char.toUpper_toUpper_eq_toUpper, List.singleton_append, dashCase_of_isUpper hupper,
        Char.toLower_toUpper_eq_toLower,
        Char.toLower_eq_of_not_isUpper (Char.not_isUpper_of_isLower hlower),
        dashCase_camelCase (List.forall_mem_cons.mp hcs).2]
      exact (dashCase_eq_self h).symm

/-- Properties are told apart by what their dashes bring back. -/
theorem propertyRest_eq_iff_capitalize {r s : List Char} (hr : ∀ c ∈ r, ¬c.isUpper)
    (hs : ∀ c ∈ s, ¬c.isUpper) :
    propertyRest r = propertyRest s ↔ dashCase (capitalize r) = dashCase (capitalize s) := by
  rw [← dashCase_propertyRest hr, ← dashCase_propertyRest hs]
  refine ⟨congrArg dashCase, fun h => ?_⟩
  rw [← camelCase_dashCase (undashed_propertyRest r), h,
    camelCase_dashCase (undashed_propertyRest s)]

theorem dashCase_capitalize {c : Char} {cs : List Char} (h : ∀ d ∈ c :: cs, ¬d.isUpper)
    (hascii : c.toNat < 128) :
    dashCase (capitalize (c :: cs)) = if c.isLower then '-' :: c :: cs else c :: cs := by
  obtain ⟨hself, hcs⟩ := List.forall_mem_cons.mp h
  rw [capitalize, Text.upperChar_of_ascii hascii, List.singleton_append]
  split
  · next hlower =>
    have hupper : c.toUpper.isUpper := by simp [Char.isAlpha, hlower]
    rw [dashCase_of_isUpper hupper, Char.toLower_toUpper_eq_toLower,
      Char.toLower_eq_of_not_isUpper hself, dashCase_eq_self hcs]
  · next hlower => rw [Char.toUpper_eq_of_not_isLower hlower, dashCase_eq_self h]

theorem Doubles.dashCase_capitalize_eq {r s : List Char} (h : Doubles r s)
    (hr : ∀ c ∈ r, ¬c.isUpper) : dashCase (capitalize r) = dashCase (capitalize s) := by
  obtain ⟨rfl, c, hc, hlower⟩ := h
  obtain ⟨cs, rfl⟩ := List.head?_eq_some_iff.mp hc
  have hascii := ascii_of_letterOrMark (.inr (.inl hlower))
  rw [dashCase_capitalize hr (by decide), dashCase_capitalize (List.forall_mem_cons.mp hr).2 hascii,
    if_pos hlower]
  rfl

/-- Two rests without capitals give one property exactly if they are the same or clash. -/
theorem propertyRest_eq_iff {r s : List Char} (hr : ∀ c ∈ r, ¬c.isUpper) (hs : ∀ c ∈ s, ¬c.isUpper)
    (hr' : r ≠ []) (hs' : s ≠ []) : propertyRest r = propertyRest s ↔ r = s ∨ Clash r s := by
  rw [propertyRest_eq_iff_capitalize hr hs]
  constructor
  · intro h
    by_cases hascii : (∃ c ∈ r.head?, 128 ≤ c.toNat) ∨ ∃ c ∈ s.head?, 128 ≤ c.toNat
    · exact .inr (.inr (.inr ⟨hascii, h⟩))
    · obtain ⟨c, cs, rfl⟩ := List.exists_cons_of_ne_nil hr'
      obtain ⟨d, ds, rfl⟩ := List.exists_cons_of_ne_nil hs'
      push Not at hascii
      rw [dashCase_capitalize hr (hascii.1 c rfl), dashCase_capitalize hs (hascii.2 d rfl)] at h
      -- The dash tells a small first letter from any other first character, itself apart.
      split at h <;> split at h
      · exact .inl (List.cons.inj h).2
      · next hc _ => exact .inr (.inr (.inl ⟨h.symm, c, rfl, hc⟩))
      · next _ hd => exact .inr (.inl ⟨h, d, rfl, hd⟩)
      · exact .inl h
  · rintro (rfl | hdoubles | hdoubles | hrecased)
    · rfl
    · exact hdoubles.dashCase_capitalize_eq hr
    · exact (hdoubles.dashCase_capitalize_eq hs).symm
    · exact hrecased.2

namespace IsDataAttribute
variable {name : String} {rest : List Char}

theorem of_all (hspelled : name = "data-" ++ String.ofList rest) (hne : rest ≠ [])
    (hchars : rest.all isDataChar) (hplain : rest.any Char.isUpper = false) :
    IsDataAttribute name rest := by
  have hname : name.toList = 'd' :: 'a' :: 't' :: 'a' :: '-' :: rest := by
    rw [hspelled, ← dataName_dash, toList_dataName]
  have hdata : ∀ c ∈ '-' :: rest, isDataChar c :=
    List.forall_mem_cons.mpr ⟨rfl, List.all_eq_true.mp hchars⟩
  refine ⟨hspelled, hne, ?_, ?_⟩
  · rw [hname, ← toList_dataName, dataSuffix?_dataName (.of_forall (List.cons_ne_nil _ _) hdata)]
    rfl
  · rw [hname]
    simpa using hplain

theorem name_eq (h : IsDataAttribute name rest) : name = dataName ('-' :: rest) :=
  h.spelled.trans (dataName_dash rest).symm

theorem not_isUpper (h : IsDataAttribute name rest) : ∀ c ∈ rest, ¬c.isUpper := by
  intro c hc
  apply h.uncapitalized
  rw [h.name_eq, toList_dataName]
  simp [hc]

theorem dataSuffix?_eq (h : IsDataAttribute name rest) :
    dataSuffix? name.toList = some ('-' :: rest) := by
  obtain ⟨suffix, hsuffix⟩ := Option.isSome_iff_exists.mp h.accepted
  obtain ⟨d, a, t, b, hname, -⟩ := dataSuffix?_eq_some_iff.mp hsuffix
  rw [h.name_eq, toList_dataName] at hname
  simp only [List.cons.injEq] at hname
  rw [hsuffix, hname.2.2.2.2]

theorem property_eq (h : IsDataAttribute name rest) (space : Space) :
    ((ofSpace space).resolve name).property = dataName (propertyRest rest) := by
  rw [resolve_attributeForm space h.dataSuffix?_eq]

end IsDataAttribute

theorem IsDataAttribute.property_eq_iff {v w : String} {r s : List Char}
    (hv : IsDataAttribute v r) (hw : IsDataAttribute w s) (space : Space) :
    ((ofSpace space).resolve v).property = ((ofSpace space).resolve w).property ↔
      v = w ∨ Clash r s := by
  have hnames : v = w ↔ r = s := by
    rw [hv.name_eq, hw.name_eq, dataName_injective.eq_iff, List.cons_inj_right]
  rw [hv.property_eq, hw.property_eq, dataName_injective.eq_iff, hnames]
  exact propertyRest_eq_iff hv.not_isUpper hw.not_isUpper hv.nonempty hw.nonempty

theorem get?_tagPositions (space : Space) {l : Source.Location} {name : String}
    {place : Option Span} (hkeys : (Entries.keys l.attributes).Nodup)
    (hmem : (name, place) ∈ l.attributes)
    (halone : ∀ other ∈ Entries.keys l.attributes, other ≠ name →
      ((ofSpace space).resolve other).property ≠ ((ofSpace space).resolve name).property) :
    Entries.get? ((ofSpace space).resolve name).property (tagPositions space (some l)).properties =
      some (place.bind Span.position?) := by
  apply Entries.get?_ofList_of_unique
    (p := (((ofSpace space).resolve name).property, place.bind Span.position?))
  · exact List.mem_map.mpr ⟨_, hmem, rfl⟩
  · intro q hq hproperty
    obtain ⟨⟨other, place'⟩, hother, rfl⟩ := List.mem_map.mp hq
    -- The same property comes from the same name, which has one place.
    have hname : other = name := by
      by_contra hne
      exact halone other (List.mem_map.mpr ⟨_, hother, rfl⟩) hne hproperty
    subst hname
    have hplace := (Entries.get?_of_mem hkeys hother).symm.trans (Entries.get?_of_mem hkeys hmem)
    rw [Option.some.inj hplace]

/-- Data attributes without ASCII capitals share a property only if they are the same, if one has
one more dash before a small letter, or if they differ by the case of a first character that is not
ASCII. Where they do not, none of them loses its position to another. -/
theorem data_property_eq_iff (space : Space) :
    (∀ v w r s, IsDataAttribute v r → IsDataAttribute w s →
      (((ofSpace space).resolve v).property = ((ofSpace space).resolve w).property ↔
        v = w ∨ Clash r s)) ∧
    ∀ (l : Source.Location) v r place, (Entries.keys l.attributes).Nodup →
      (v, place) ∈ l.attributes → IsDataAttribute v r →
      (∀ w ∈ Entries.keys l.attributes, w ≠ v → (∃ s, IsDataAttribute w s ∧ ¬Clash r s) ∨
        ((ofSpace space).resolve w).property ≠ ((ofSpace space).resolve v).property) →
      Entries.get? ((ofSpace space).resolve v).property
        (tagPositions space (some l)).properties = some (place.bind Span.position?) := by
  refine ⟨fun v w r s hv hw => hv.property_eq_iff hw space, ?_⟩
  intro l v r place hkeys hmem hv hothers
  apply get?_tagPositions space hkeys hmem
  intro w hw hne
  rcases hothers w hw hne with ⟨s, hdata, hclash⟩ | hother
  · intro hproperty
    exact ((hv.property_eq_iff hdata space).mp hproperty.symm).elim (Ne.symm hne) hclash
  · exact hother

def dashedInside : Source.Location :=
  ⟨⟨⟨some 1, some 1, some 0⟩, ⟨some 1, some 24, some 23⟩⟩, none, none,
    [("data-x-y", some ⟨⟨some 1, some 4, some 3⟩, ⟨some 1, some 12, some 11⟩⟩), ("data-xy", none)]⟩

theorem data_property_eq_iff_dashedInside :
    IsDataAttribute "data-x-y" ['x', '-', 'y'] ∧ IsDataAttribute "data-xy" ['x', 'y'] ∧
      (svg.resolve "data-x-y").property ≠ (svg.resolve "data-xy").property ∧
      Entries.get? (svg.resolve "data-x-y").property
          (tagPositions .svg (some dashedInside)).properties =
        some (some ⟨some ⟨some 1, some 4, some 3⟩, some ⟨some 1, some 12, some 11⟩⟩) := by
  have hv : IsDataAttribute "data-x-y" ['x', '-', 'y'] :=
    .of_all (by decide) (by simp) (by decide +kernel) (by decide)
  have hw : IsDataAttribute "data-xy" ['x', 'y'] :=
    .of_all (by decide) (by simp) (by decide +kernel) (by decide)
  have hclash : ¬Clash ['x', '-', 'y'] ['x', 'y'] := by simp [Clash, Doubles, Recased]
  obtain ⟨hiff, hplace⟩ := data_property_eq_iff .svg
  refine ⟨hv, hw, fun h => ?_,
    hplace dashedInside _ _ _ (by decide) (.head _) hv fun w hw' hne => ?_⟩
  · rcases (hiff _ _ _ _ hv hw).mp h with heq | hboth
    · exact absurd heq (by decide)
    · exact hclash hboth
  · obtain rfl : w = "data-xy" := by simpa [dashedInside, Entries.keys, hne] using hw'
    exact .inl ⟨_, hw, hclash⟩

/-- Different names can share a property, by a dash before a letter and without one. -/
theorem data_property_shared :
    (¬∀ space v w r s, IsDataAttribute v r → IsDataAttribute w s → v ≠ w →
      ((ofSpace space).resolve v).property ≠ ((ofSpace space).resolve w).property) ∧
    ¬∀ space v w r s, IsDataAttribute v r → IsDataAttribute w s → v ≠ w →
      ¬Doubles r s → ¬Doubles s r →
        ((ofSpace space).resolve v).property ≠ ((ofSpace space).resolve w).property := by
  constructor
  · intro hdiffer
    have hv : IsDataAttribute "data--a" ['-', 'a'] :=
      .of_all (by decide) (by simp) (by decide +kernel) (by decide)
    have hw : IsDataAttribute "data-a" ['a'] :=
      .of_all (by decide) (by simp) (by decide +kernel) (by decide)
    apply hdiffer .html _ _ _ _ hv hw (by decide)
    exact (hv.property_eq_iff hw .html).mpr (.inr (.inl ⟨rfl, 'a', rfl, rfl⟩))
  · intro hdiffer
    have hv : IsDataAttribute "data-é" ['é'] :=
      .of_all (by decide) (by simp) (by decide +kernel) (by decide)
    have hw : IsDataAttribute "data-É" ['É'] :=
      .of_all (by decide) (by simp) (by decide +kernel) (by decide)
    apply hdiffer .html _ _ _ _ hv hw (by decide) (by simp [Doubles]) (by simp [Doubles])
    exact (hv.property_eq_iff hw .html).mpr
      (.inr (.inr (.inr ⟨.inl ⟨'é', rfl, by decide⟩, by decide +kernel⟩)))

end Schema

end MarkupTree

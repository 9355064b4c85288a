import MarkupTree.Proofs.Schema.DataNames
import MarkupTree.Proofs.Schema.KnownNames

namespace MarkupTree.Schema

def IsDataRun (cs : List Char) : Prop :=
  ∃ body, (∀ c ∈ body, isDataChar c) ∧ (cs = body ∨ cs = body ++ ['\n'])

section IsDataRun
variable {c : Char} {cs : List Char}

theorem IsDataSuffix.isDataRun (h : IsDataSuffix cs) : IsDataRun cs := by
  obtain ⟨body, -, hbody, hcs⟩ := h
  exact ⟨body, hbody, hcs⟩

theorem IsDataRun.isDataSuffix_dash (h : IsDataRun cs) : IsDataSuffix ('-' :: cs) := by
  obtain ⟨body, hbody, hcs⟩ := h
  refine ⟨'-' :: body, List.cons_ne_nil _ _, List.forall_mem_cons.mpr ⟨rfl, hbody⟩, ?_⟩
  exact hcs.imp (congrArg _) (congrArg _)

theorem IsDataRun.tail (h : IsDataRun (c :: cs)) : IsDataRun cs := by
  obtain ⟨body, hbody, hcs⟩ := h
  cases body with
  | nil =>
    refine ⟨[], nofun, .inl ?_⟩
    rcases hcs with hcs | hcs
    · cases hcs
    · exact (List.cons.inj hcs).2
  | cons d body =>
    refine ⟨body, (List.forall_mem_cons.mp hbody).2, ?_⟩
    exact hcs.imp (fun h => (List.cons.inj h).2) (fun h => (List.cons.inj h).2)

theorem IsDataRun.map {f : List Char → List Char} (h : IsDataRun cs)
    (hchars : ∀ body, (∀ c ∈ body, isDataChar c) → ∀ c ∈ f body, isDataChar c)
    (hend : ∀ body, f (body ++ ['\n']) = f body ++ ['\n']) : IsDataRun (f cs) := by
  obtain ⟨body, hbody, rfl | rfl⟩ := h
  · exact ⟨_, hchars _ hbody, .inl rfl⟩
  · exact ⟨_, hchars _ hbody, .inr (hend body)⟩

theorem camelCase_append_newline (cs : List Char) :
    camelCase (cs ++ ['\n']) = camelCase cs ++ ['\n'] := by
  fun_induction camelCase cs with
  | case1 c rest hc ih => rw [List.cons_append, List.cons_append, camelCase_dash hc, ih]; rfl
  | case2 c rest hc ih =>
    rw [List.cons_append, camelCase_cons fun _ d hd => ?_, ih]
    · rfl
    · obtain rfl := Option.some.inj hd
      exact hc
  | case3 c rest hlast ih =>
    rw [List.cons_append, camelCase_cons fun hdash d hd => ?_, ih]
    · rfl
    · cases rest with
      | nil =>
        obtain rfl := Option.some.inj hd
        decide
      | cons e rest => exact (hlast e rest hdash rfl).elim
  | case4 => rfl

theorem IsDataRun.camelCase (h : IsDataRun cs) : IsDataRun (camelCase cs) := by
  refine h.map (fun body hbody => ?_) camelCase_append_newline
  exact forall_mem_camelCase hbody fun c hc => isDataChar_of_letterOrMark (.inl hc)

theorem IsDataRun.dashCase (h : IsDataRun cs) : IsDataRun (dashCase cs) := by
  refine h.map (fun body hbody => ?_) fun body => dashCase_append body ['\n']
  exact forall_mem_dashCase (fun c hc _ => hbody c hc)
    (fun c hc => isDataChar_of_letterOrMark (.inr (.inl hc))) rfl

theorem IsDataRun.attributeRest (h : IsDataRun cs) : IsDataRun (attributeRest cs) := by
  have hdashed := h.dashCase
  rw [Schema.attributeRest]
  split
  · next hdash =>
    rw [hdash] at hdashed
    exact hdashed.tail
  · exact hdashed

end IsDataRun

/-- The name of a data attribute with a second dash that no small letter follows. This dash stays in
the property, where it makes an attribute of it. -/
def KeepsDash (name : String) : Prop :=
  ∃ rest, dataSuffix? name.toList = some ('-' :: '-' :: rest) ∧ ∀ c ∈ rest.head?, ¬c.isLower

section PropertyRest
variable {rest : List Char}

theorem propertyRest_keptDash (h : ∀ c ∈ rest.head?, ¬c.isLower) :
    propertyRest ('-' :: rest) = '-' :: camelCase rest := by
  rw [propertyRest, camelCase_cons fun _ => h]
  rfl

/-- A property has a dash after `data` only where its attribute has one that stays. -/
theorem head?_propertyRest_eq_dash_iff : (propertyRest rest).head? = some '-' ↔
    ∃ r, rest = '-' :: r ∧ ∀ c ∈ r.head?, ¬c.isLower := by
  constructor
  · intro h
    have hcapitalized {c : Char} {cs : List Char} (hc : c ≠ '-') :
        (capitalize (c :: cs)).head? ≠ some '-' := by
      rw [capitalize, List.head?_append_of_ne_nil _ (Text.upperChar_ne_nil c)]
      exact fun hhead => Text.dash_notMem_upperChar hc (List.mem_of_mem_head? hhead)
    cases rest with
    | nil => cases h
    | cons c cs =>
      by_cases hkept : c = '-' → ∀ d ∈ cs.head?, ¬d.isLower
      · rw [propertyRest, camelCase_cons hkept] at h
        obtain rfl : c = '-' := by
          by_contra hc
          exact hcapitalized hc h
        exact ⟨cs, rfl, hkept rfl⟩
      · push Not at hkept
        obtain ⟨rfl, d, hd, hlower⟩ := hkept
        obtain ⟨ds, rfl⟩ := List.head?_eq_some_iff.mp hd
        have hne : d ≠ '-' := by
          rintro rfl
          exact absurd hlower (by decide)
        rw [propertyRest, camelCase_dash hlower] at h
        exact (hcapitalized (Text.toUpper_ne_dash hne) h).elim
  · rintro ⟨r, rfl, hr⟩
    rw [propertyRest_keptDash hr]
    rfl

theorem length_camelCase_le (cs : List Char) : (camelCase cs).length ≤ cs.length := by
  fun_induction camelCase cs with
  | case1 c rest _ ih => exact Nat.succ_le_succ (ih.trans (Nat.le_succ _))
  | case2 c rest _ ih | case3 c rest _ ih => exact Nat.succ_le_succ ih
  | case4 => exact le_rfl

theorem propertyRest_ne_dash_cons (rest : List Char) : propertyRest rest ≠ '-' :: rest := by
  intro h
  obtain ⟨r, rfl, hr⟩ := head?_propertyRest_eq_dash_iff.mp (congrArg List.head? h)
  rw [propertyRest_keptDash hr] at h
  have hlength := length_camelCase_le r
  rw [(List.cons.inj h).2] at hlength
  simp at hlength

end PropertyRest

section Canonical
variable (space : Space) {name : String} {rest : List Char}

theorem property_resolve_eq_self (hlookup : (ofSpace space).lookup? name = none)
    (hform : ∀ rest, dataSuffix? name.toList ≠ some ('-' :: rest)) :
    ((ofSpace space).resolve name).property = name := by
  cases hsuffix : dataSuffix? name.toList with
  | none => simp [resolve_of_lookup?_eq_none hlookup, ofDataName?, hsuffix]
  | some suffix =>
    rw [resolve_propertyForm space hsuffix]
    intro hdash
    obtain ⟨rest, rfl⟩ := List.head?_eq_some_iff.mp hdash
    exact hform rest hsuffix

/-- The property of a data attribute stands for itself if it has no dash that makes an attribute of
it. -/
theorem property_resolve_attributeForm (h : dataSuffix? name.toList = some ('-' :: rest)) :
    ((ofSpace space).resolve ((ofSpace space).resolve name).property).property =
        ((ofSpace space).resolve name).property ↔
      ¬∃ r, rest = '-' :: r ∧ ∀ c ∈ r.head?, ¬c.isLower := by
  obtain ⟨_, _, _, _, -, -, hsuffix⟩ := dataSuffix?_eq_some_iff.mp h
  rw [resolve_attributeForm space h, ← head?_propertyRest_eq_dash_iff]
  by_cases hdash : (propertyRest rest).head? = some '-'
  · obtain ⟨r, rfl, hr⟩ := head?_propertyRest_eq_dash_iff.mp hdash
    have hrun : IsDataRun (camelCase r) := hsuffix.isDataRun.tail.tail.camelCase
    rw [propertyRest_keptDash hr,
      resolve_attributeForm space (dataSuffix?_dataName hrun.isDataSuffix_dash),
      dataName_injective.eq_iff]
    exact iff_of_false (propertyRest_ne_dash_cons _) (not_not_intro rfl)
  · refine iff_of_true ?_ hdash
    cases hrest : propertyRest rest with
    | nil => exact resolve_data space
    | cons c cs =>
      rw [hrest] at hdash
      apply property_resolve_eq_self
      · apply lookup?_of_goesPastData
        rw [toList_dataName]
        exact goesPastData_of_toLower rfl (List.cons_ne_nil _ _)
      · intro r hr
        obtain ⟨_, _, _, _, hname, -⟩ := dataSuffix?_eq_some_iff.mp hr
        rw [toList_dataName] at hname
        cases hname
        exact hdash rfl

/-- What a listed name resolves to is found under its property and its attribute as well. -/
theorem resolve_of_lookup?_eq_some {info : PropertyInfo}
    (h : (ofSpace space).lookup? name = some info) :
    (ofSpace space).resolve name = info ∧ (ofSpace space).resolve info.property = info ∧
      (ofSpace space).resolve info.attr = info := by
  obtain ⟨hmem, hname⟩ := lookup?_ofSpace_eq_some_iff.mp h
  exact ⟨resolve_of_isNamed hmem hname, resolve_of_isNamed hmem (.inl rfl),
    resolve_of_isNamed hmem (.inr rfl)⟩

/-- The property that a name resolves to resolves to itself, unless it is that of a data attribute
with a second dash that stays. -/
theorem resolve_property_idempotent_iff (space : Space) (name : String) :
    ((ofSpace space).resolve ((ofSpace space).resolve name).property).property =
      ((ofSpace space).resolve name).property ↔ ¬KeepsDash name := by
  by_cases hform : ∃ rest, dataSuffix? name.toList = some ('-' :: rest)
  · obtain ⟨rest, hrest⟩ := hform
    rw [property_resolve_attributeForm space hrest, KeepsDash, hrest]
    simp only [Option.some.injEq, List.cons.injEq, true_and]
  · have hkeeps : ¬KeepsDash name := fun ⟨rest, hrest, _⟩ => hform ⟨_, hrest⟩
    refine iff_of_true ?_ hkeeps
    cases hlookup : (ofSpace space).lookup? name with
    | some info =>
      obtain ⟨hname, hproperty, -⟩ := resolve_of_lookup?_eq_some space hlookup
      rw [hname, hproperty]
    | none =>
      have hself := property_resolve_eq_self space hlookup fun rest hrest => hform ⟨rest, hrest⟩
      rw [hself, hself]

/-- Not every property stands for itself: a dash before a digit stays, and is lost the second time. -/
theorem resolve_property_not_idempotent :
    ¬∀ (space : Space) (name : String),
      ((ofSpace space).resolve ((ofSpace space).resolve name).property).property =
        ((ofSpace space).resolve name).property := by
  intro hself
  have hform : dataSuffix? "data--1".toList = some ('-' :: ['-', '1']) := by decide +kernel
  exact (property_resolve_attributeForm .html hform).mp (hself _ _) ⟨['1'], rfl, by simp⟩

/-- The attribute that a name resolves to resolves to itself. -/
theorem resolve_attr_idempotent (space : Space) (name : String) :
    ((ofSpace space).resolve ((ofSpace space).resolve name).attr).attr =
      ((ofSpace space).resolve name).attr := by
  cases hlookup : (ofSpace space).lookup? name with
  | some info =>
    obtain ⟨hname, -, hattr⟩ := resolve_of_lookup?_eq_some space hlookup
    rw [hname, hattr]
  | none =>
    cases hsuffix : dataSuffix? name.toList with
    | none => simp [resolve_of_lookup?_eq_none hlookup, ofDataName?, hsuffix]
    | some suffix =>
      by_cases hdash : suffix.head? = some '-'
      · obtain ⟨rest, rfl⟩ := List.head?_eq_some_iff.mp hdash
        simp only [resolve_attributeForm space hsuffix]
      · -- The attribute of a data property is accepted again, as an attribute.
        obtain ⟨_, _, _, _, -, -, hdata⟩ := dataSuffix?_eq_some_iff.mp hsuffix
        have hrun : IsDataRun (attributeRest suffix) := hdata.isDataRun.attributeRest
        rw [resolve_propertyForm space hsuffix hdash,
          resolve_attributeForm space (dataSuffix?_dataName hrun.isDataSuffix_dash)]

end Canonical

end MarkupTree.Schema

import MarkupTree.Proofs.Schema.DataNames

namespace MarkupTree.Schema

variable {schema : Schema} {name : String}

theorem exists_fifth_of_dataSuffix? {suffix : List Char} (h : dataSuffix? name.toList = some suffix) :
    goesPastData name.toList ∧ ∃ fifth rest, suffix = fifth :: rest ∧
      name.toList[4]? = some fifth ∧ name.toList.drop 4 = suffix ∧ name.toList.drop 5 = rest := by
  obtain ⟨d, a, t, b, hname, hdata, hsuffix⟩ := dataSuffix?_eq_some_iff.mp h
  obtain ⟨fifth, rest, rfl⟩ := List.exists_cons_of_ne_nil hsuffix.ne_nil
  rw [hname]
  exact ⟨goesPastData_of_toLower hdata hsuffix.ne_nil, fifth, rest, rfl, rfl, rfl, rfl⟩

theorem consult?_of_unlisted
    (h : Entries.get? (Text.lowercase name) schema.names = none) :
    schema.consult? name = some ((ofDataName? schema.space name).getD ⟨name, name, none⟩) := by
  rw [consult?, h]
  cases hsuffix : dataSuffix? name.toList with
  | none => simp [ofDataName?, hsuffix]
  | some suffix =>
    obtain ⟨hpast, fifth, rest, rfl, hfifth, hdrop, hrest⟩ := exists_fifth_of_dataSuffix? hsuffix
    simp only [hpast, Option.isSome_some, and_self, if_true, hfifth, hdrop, hrest, Option.map_some]
    by_cases hdash : fifth = '-'
    · subst hdash
      rw [if_pos rfl, ofDataName?_attributeForm _ hsuffix, ofList_dataProperty, Option.getD_some]
    · rw [if_neg hdash, ofDataName?_propertyForm _ hsuffix (by simpa using hdash),
        ofList_dataAttribute, Option.getD_some]

/-- In a schema that is filled from a list no step fails. -/
theorem consult?_ofInfos (space : Option String) (infos : List PropertyInfo) (name : String) :
    (ofInfos space infos).consult? name = some ((ofInfos space infos).resolve name) := by
  cases hname : Entries.get? (Text.lowercase name) (ofInfos space infos).names with
  | none =>
    have hlookup : (ofInfos space infos).lookup? name = none := by
      rw [lookup?, hname, Option.bind_none]
    rw [consult?_of_unlisted hname, resolve_of_lookup?_eq_none hlookup]
  | some property =>
    obtain ⟨info, hinfo⟩ := exists_get?_properties hname
    have hlookup : (ofInfos space infos).lookup? name = some info := by
      rw [lookup?, hname, Option.bind_some, hinfo]
    rw [consult?, hname, resolve, hlookup]
    exact hinfo

/-- A name resolves to what a scan of the list gives: the last entry with the property of the last
entry that it is a name of. If it is a name of none, the rules for other names apply. No step of the
lookup fails. -/
theorem resolve_ofInfos_eq_scan (space : Option String) (infos : List PropertyInfo)
    (name : String) :
    (ofInfos space infos).consult? name = some ((ofInfos space infos).resolve name) ∧
      (∀ i, IsLast (PropertyInfo.IsNamed name) infos i →
        IsLast (fun j => j.property = i.property) infos ((ofInfos space infos).resolve name)) ∧
      ((∀ i ∈ infos, ¬i.IsNamed name) →
        (ofInfos space infos).resolve name =
          (ofDataName? space name).getD ⟨name, name, none⟩) := by
  refine ⟨consult?_ofInfos space infos name, fun i hi => ?_, fun hnone => ?_⟩
  · obtain ⟨info, hinfo⟩ := exists_isLast (P := fun j => j.property = i.property) hi.mem rfl
    have hlookup : (ofInfos space infos).lookup? name = some info :=
      lookup?_ofInfos_eq_some_iff.mpr ⟨i, hi, hinfo⟩
    rw [resolve, hlookup]
    exact hinfo
  · rw [resolve_of_lookup?_eq_none (lookup?_ofInfos_eq_none_iff.mpr hnone), space_ofInfos]

def clashing : List PropertyInfo := [⟨"one", "x", none⟩, ⟨"two", "X", none⟩, ⟨"two", "z", none⟩]

theorem resolve_ofInfos_eq_scan_clashing :
    IsLast (PropertyInfo.IsNamed "x") clashing ⟨"two", "X", none⟩ ∧
      IsLast (fun j => j.property = "two") clashing ((ofInfos none clashing).resolve "x") ∧
      (∀ i ∈ clashing, ¬i.IsNamed "data-b") ∧
      (ofInfos none clashing).resolve "data-b" = ⟨"dataB", "data-b", none⟩ := by
  have hlast : IsLast (PropertyInfo.IsNamed "x") clashing ⟨"two", "X", none⟩ := by
    refine ⟨[_], [_], rfl, .inr (by decide +kernel), ?_⟩
    simp only [List.forall_mem_singleton, PropertyInfo.IsNamed]
    decide +kernel
  have hnone : ∀ i ∈ clashing, ¬i.IsNamed "data-b" := by
    simp only [PropertyInfo.IsNamed]
    decide +kernel
  refine ⟨hlast, (resolve_ofInfos_eq_scan none clashing "x").2.1 _ hlast, hnone, ?_⟩
  rw [(resolve_ofInfos_eq_scan none clashing "data-b").2.2 hnone]
  decide +kernel

end MarkupTree.Schema

import MarkupTree.Proofs.Entries
import MarkupTree.Schema.Standard

namespace MarkupTree

def IsLast {α : Type} (P : α → Prop) (xs : List α) (x : α) : Prop :=
  ∃ before after, xs = before ++ x :: after ∧ P x ∧ ∀ y ∈ after, ¬P y

section IsLast
variable {α : Type} {P : α → Prop} {xs : List α} {x y : α}

theorem IsLast.mem (h : IsLast P xs x) : x ∈ xs := by
  obtain ⟨before, after, rfl, -, -⟩ := h
  simp

theorem IsLast.holds (h : IsLast P xs x) : P x := by
  obtain ⟨before, after, -, hx, -⟩ := h
  exact hx

theorem not_isLast_nil : ¬IsLast P [] x := by
  rintro ⟨before, after, h, -⟩
  simp at h

theorem isLast_concat : IsLast P (xs ++ [y]) x ↔ (P y ∧ x = y) ∨ (¬P y ∧ IsLast P xs x) := by
  constructor
  · rintro ⟨before, after, hsplit, hx, hafter⟩
    rcases after.eq_nil_or_concat with rfl | ⟨rest, z, rfl⟩
    · obtain ⟨-, rfl⟩ := List.append_inj' hsplit rfl |>.imp_right List.singleton_inj.mp
      exact .inl ⟨hx, rfl⟩
    · rw [List.concat_eq_append, ← List.cons_append, ← List.append_assoc] at hsplit
      obtain ⟨rfl, hy⟩ := List.append_inj' hsplit rfl
      obtain rfl := List.singleton_inj.mp hy
      simp only [List.concat_eq_append, List.forall_mem_append, List.forall_mem_singleton] at hafter
      exact .inr ⟨hafter.2, before, rest, rfl, hx, hafter.1⟩
  · rintro (⟨hy, rfl⟩ | ⟨hy, before, after, rfl, hx, hafter⟩)
    · exact ⟨xs, [], rfl, hy, nofun⟩
    · exact ⟨before, after ++ [y], by simp, hx,
        List.forall_mem_append.mpr ⟨hafter, List.forall_mem_singleton.mpr hy⟩⟩

theorem exists_isLast (hx : x ∈ xs) (h : P x) : ∃ y, IsLast P xs y := by
  classical
  induction xs using List.reverseRecOn with
  | nil => cases hx
  | append_singleton xs y ih =>
    by_cases hy : P y
    · exact ⟨y, isLast_concat.mpr (.inl ⟨hy, rfl⟩)⟩
    · have hmem : x ∈ xs := by
        rcases List.mem_append.mp hx with hx | hx
        · exact hx
        · exact absurd (List.mem_singleton.mp hx ▸ h) hy
      obtain ⟨z, hz⟩ := ih hmem
      exact ⟨z, isLast_concat.mpr (.inr ⟨hy, hz⟩)⟩

end IsLast

def PropertyInfo.IsNamed (name : String) (info : PropertyInfo) : Prop :=
  Text.lowercase info.property = Text.lowercase name ∨
    Text.lowercase info.attr = Text.lowercase name

namespace Schema
variable {space : Option String} {infos : List PropertyInfo} {name property : String}
  {info : PropertyInfo}

theorem ofInfos_concat (space : Option String) (infos : List PropertyInfo) (info : PropertyInfo) :
    ofInfos space (infos ++ [info]) = (ofInfos space infos).insert info := by
  simp [ofInfos, List.foldl_append]

@[simp] theorem space_ofInfos (space : Option String) (infos : List PropertyInfo) :
    (ofInfos space infos).space = space := by
  induction infos using List.reverseRecOn with
  | nil => rfl
  | append_singleton infos info ih =>
    rw [ofInfos_concat]
    exact ih

theorem get?_properties_ofInfos : Entries.get? property (ofInfos space infos).properties = some info ↔
    IsLast (fun i => i.property = property) infos info := by
  induction infos using List.reverseRecOn with
  | nil => simp [ofInfos, Entries.get?, not_isLast_nil]
  | append_singleton infos i ih =>
    rw [ofInfos_concat, isLast_concat, ← ih]
    by_cases h : i.property = property
    · subst h
      simp [insert, Entries.get?_put_self, eq_comm]
    · simp [insert, Entries.get?_put_of_ne _ _ h, h]

theorem get?_names_ofInfos :
    Entries.get? (Text.lowercase name) (ofInfos space infos).names = some property ↔
      ∃ i, IsLast (PropertyInfo.IsNamed name) infos i ∧ i.property = property := by
  induction infos using List.reverseRecOn with
  | nil => simp [ofInfos, Entries.get?, not_isLast_nil]
  | append_singleton infos i ih =>
    simp only [ofInfos_concat, isLast_concat, insert]
    by_cases hattr : Text.lowercase i.attr = Text.lowercase name
    · simp [hattr, Entries.get?_put_self, PropertyInfo.IsNamed]
    · rw [Entries.get?_put_of_ne _ _ hattr]
      by_cases hproperty : Text.lowercase i.property = Text.lowercase name
      · simp [hproperty, Entries.get?_put_self, PropertyInfo.IsNamed]
      · rw [Entries.get?_put_of_ne _ _ hproperty, ih]
        simp [PropertyInfo.IsNamed, hattr, hproperty]

/-- The two tables are filled side by side: every property that a name stands for has an entry. -/
theorem exists_get?_properties
    (h : Entries.get? (Text.lowercase name) (ofInfos space infos).names = some property) :
    ∃ info, Entries.get? property (ofInfos space infos).properties = some info := by
  obtain ⟨i, hi, hproperty⟩ := get?_names_ofInfos.mp h
  obtain ⟨info, hinfo⟩ := exists_isLast (P := fun i => i.property = property) hi.mem hproperty
  exact ⟨info, get?_properties_ofInfos.mpr hinfo⟩

/-- Looking a name up is a scan for the last entry that it is a name of, and one for the last entry
with the property of that. -/
theorem lookup?_ofInfos_eq_some_iff : (ofInfos space infos).lookup? name = some info ↔
    ∃ i, IsLast (PropertyInfo.IsNamed name) infos i ∧
      IsLast (fun j => j.property = i.property) infos info := by
  simp only [lookup?, Option.bind_eq_some_iff, get?_names_ofInfos, get?_properties_ofInfos]
  constructor
  · rintro ⟨_, ⟨i, hi, rfl⟩, hinfo⟩
    exact ⟨i, hi, hinfo⟩
  · rintro ⟨i, hi, hinfo⟩
    exact ⟨_, ⟨i, hi, rfl⟩, hinfo⟩

theorem lookup?_ofInfos_eq_none_iff : (ofInfos space infos).lookup? name = none ↔
    ∀ i ∈ infos, ¬i.IsNamed name := by
  rw [← Option.not_isSome_iff_eq_none, Option.isSome_iff_exists, ← not_exists_mem]
  refine not_congr ⟨?_, ?_⟩
  · rintro ⟨info, hinfo⟩
    obtain ⟨i, hi, -⟩ := lookup?_ofInfos_eq_some_iff.mp hinfo
    exact ⟨i, hi.mem, hi.holds⟩
  · rintro ⟨i, hi, hnamed⟩
    obtain ⟨j, hj⟩ := exists_isLast hi hnamed
    obtain ⟨info, hinfo⟩ := exists_isLast (P := fun i => i.property = j.property) hj.mem rfl
    exact ⟨info, lookup?_ofInfos_eq_some_iff.mpr ⟨j, hj, hinfo⟩⟩

end Schema

end MarkupTree

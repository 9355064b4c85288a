import Mathlib.Data.List.Dedup
import Mathlib.Data.List.Pairwise
import Mathlib.Data.List.Sort
import MarkupTree.Proofs.Schema.Names

namespace MarkupTree.Schema

/-- A number for a text, by which texts that differ in lower case can be told apart. -/
def nameCode (cs : List Char) : Nat :=
  (Text.lowerFrom [] cs).foldl (fun n c => 128 * n + c.toNat) 0

def nameCodes (p : String × String) : List Nat :=
  [nameCode p.1.toList, nameCode p.2.toList].dedup

theorem nodup_of_insertionSort {codes : List Nat}
    (h : (codes.insertionSort (· ≤ ·)).IsChain (· < ·)) : codes.Nodup :=
  (List.perm_insertionSort _ codes).nodup_iff.mp ((List.isChain_iff_pairwise.mp h).imp ne_of_lt)

section NameCodes

theorem nodup_nameCodes_html : (htmlInfos.flatMap nameCodes).Nodup := by
  apply nodup_of_insertionSort
  simp only [htmlInfos, sharedInfos, List.flatMap_append, List.flatMap_map, nameCodes,
    afterLetters, Text.lowercase, String.toList_append, String.toList_ofList,
    apply_ite String.toList]
  decide +kernel

theorem nodup_nameCodes_svg :
    (nameCode ['d', 'a', 't', 'a'] :: svgInfos.flatMap nameCodes).Nodup := by
  apply nodup_of_insertionSort
  simp only [svgInfos, sharedInfos, List.flatMap_append, List.flatMap_map, nameCodes,
    afterLetters, Text.lowercase, String.toList_append, String.toList_ofList,
    apply_ite String.toList]
  decide +kernel

theorem nodup_nameCodes (space : Space) : ((infosOf space).flatMap nameCodes).Nodup := by
  cases space with
  | html => exact nodup_nameCodes_html
  | svg => exact (List.nodup_cons.mp nodup_nameCodes_svg).2

end NameCodes

section Listed
variable {space : Space} {name : String} {info info' : PropertyInfo}

theorem nameCode_mem_nameCodes {p : String × String} {s : Option String}
    (h : PropertyInfo.IsNamed name ⟨p.1, p.2, s⟩) : nameCode name.toList ∈ nameCodes p := by
  have hcode {known : String} (hknown : Text.lowercase known = Text.lowercase name) :
      nameCode name.toList = nameCode known.toList := by
    rw [nameCode, nameCode, String.ofList_injective hknown]
  rw [nameCodes, List.mem_dedup]
  rcases h with hproperty | hattr
  · rw [hcode hproperty]
    exact .head _
  · rw [hcode hattr]
    exact .tail _ (.head _)

/-- A name belongs to no more than one of the properties of a space. -/
theorem eq_of_isNamed (h : info ∈ listed space) (h' : info' ∈ listed space)
    (hname : info.IsNamed name) (hname' : info'.IsNamed name) : info = info' := by
  obtain ⟨p, hp, rfl⟩ := List.mem_map.mp h
  obtain ⟨q, hq, rfl⟩ := List.mem_map.mp h'
  have hdisjoint := (List.nodup_flatMap.mp (nodup_nameCodes space)).2
  have : Std.Symm (Function.onFun List.Disjoint nameCodes) := ⟨fun _ _ h => h.symm⟩
  by_cases hpq : p = q
  · rw [hpq]
  · have hapart := hdisjoint.forall hp hq hpq
    exact (hapart (nameCode_mem_nameCodes hname) (nameCode_mem_nameCodes hname')).elim

/-- The tables of a space give a name the one property that it belongs to. -/
theorem lookup?_ofSpace_eq_some_iff :
    (ofSpace space).lookup? name = some info ↔ info ∈ listed space ∧ info.IsNamed name := by
  rw [ofSpace_eq, lookup?_ofInfos_eq_some_iff]
  constructor
  · rintro ⟨i, hi, hinfo⟩
    have hsame : info = i := eq_of_isNamed hinfo.mem hi.mem (.inl rfl) (.inl (by rw [hinfo.holds]))
    exact hsame ▸ ⟨hi.mem, hi.holds⟩
  · rintro ⟨hmem, hname⟩
    obtain ⟨i, hi⟩ := exists_isLast hmem hname
    obtain rfl := eq_of_isNamed hi.mem hmem hi.holds hname
    obtain ⟨j, hj⟩ := exists_isLast (P := fun j => j.property = i.property) hmem rfl
    obtain rfl := eq_of_isNamed hj.mem hmem (.inl rfl) (.inl (by rw [hj.holds]))
    exact ⟨j, hi, hj⟩

theorem resolve_of_isNamed (hmem : info ∈ listed space) (hname : info.IsNamed name) :
    (ofSpace space).resolve name = info := by
  rw [resolve, lookup?_ofSpace_eq_some_iff.mpr ⟨hmem, hname⟩]

/-- HTML lists `data` and SVG does not, and in both it stands for itself. -/
theorem resolve_data (space : Space) : ((ofSpace space).resolve "data").property = "data" := by
  cases space with
  | html =>
    have hmem : ⟨"data", "data", some "html"⟩ ∈ listed .html := by
      refine List.mem_map.mpr ⟨("data", "data"), ?_, rfl⟩
      refine List.mem_append_left _ (List.mem_append_right _ (List.mem_map.mpr ⟨"data", ?_, ?_⟩))
      · simp [htmlPlainProperties]
      · decide +kernel
    rw [resolve_of_isNamed hmem (.inl rfl)]
  | svg =>
    have hlookup : (ofSpace .svg).lookup? "data" = none := by
      rw [ofSpace_eq, lookup?_ofInfos_eq_none_iff]
      intro i hi hname
      obtain ⟨p, hp, rfl⟩ := List.mem_map.mp hi
      have hcode := List.mem_flatMap.mpr ⟨p, hp, nameCode_mem_nameCodes hname⟩
      exact (List.nodup_cons.mp nodup_nameCodes_svg).1 (by simpa [infosOf] using hcode)
    rw [resolve, hlookup]
    decide +kernel

end Listed

end MarkupTree.Schema

import MarkupTree.Construction
import MarkupTree.Proofs.Entries

namespace MarkupTree

namespace Text

theorem lowerChar_ne_nil (c : Char) : lowerChar c ≠ [] := by
  unfold lowerChar
  split
  · simp
  · split <;> simp

theorem lowerFrom_eq_nil_iff (before cs : List Char) : lowerFrom before cs = [] ↔ cs = [] := by
  cases cs with
  | nil => simp [lowerFrom]
  | cons c rest =>
    have := lowerChar_ne_nil c
    rw [lowerFrom]
    split <;> simp_all

theorem lowerFrom_cons_of_ascii {c : Char} (h : c.toNat < 128) (before rest : List Char) :
    lowerFrom before (c :: rest) = c.toLower :: lowerFrom (c :: before) rest := by
  have hsigma : c ≠ '\u03a3' := by
    rintro rfl
    exact absurd h (by decide)
  rw [lowerFrom, if_neg hsigma, lowerChar, if_pos h, List.singleton_append]

theorem lowercase_eq_empty_iff (s : String) : lowercase s = "" ↔ s = "" := by
  rw [lowercase, ← String.toList_inj, String.toList_ofList, ← String.toList_inj]
  exact lowerFrom_eq_nil_iff [] s.toList

end Text

namespace Schema

theorem mem_of_get?_casing {names : List String} {lowered name : String}
    (h : Entries.get? lowered (casing names) = some name) :
    name ∈ names ∧ Text.lowercase name = lowered := by
  obtain ⟨x, hx, he⟩ := List.mem_map.mp (Entries.mem_of_get? h)
  cases he
  exact ⟨hx, rfl⟩

end Schema

namespace Space

theorem elementName_eq (space : Space) (name : String) :
    space.elementName name = Text.lowercase name ∨
      space.elementName name ∈ Schema.svgElementNames ∧
        Text.lowercase (space.elementName name) = Text.lowercase name := by
  cases space with
  | html => exact .inl rfl
  | svg =>
    cases h : Entries.get? (Text.lowercase name) Schema.svgElementCasing with
    | none => exact .inl (by simp [elementName, h])
    | some spelled =>
      have hs := Schema.mem_of_get?_casing h
      exact .inr (by simpa [elementName, h] using hs)

/-- No listed name is a spelling of `template`, so the tables leave templates alone. -/
theorem elementName_eq_template_iff (space : Space) (name : String) :
    space.elementName name = "template" ↔ Text.lowercase name = "template" := by
  rcases elementName_eq space name with h | ⟨hmem, hlower⟩
  · rw [h]
  · have hnames : ∀ x ∈ Schema.svgElementNames, x ≠ "template" ∧ Text.lowercase x ≠ "template" := by
      decide +kernel
    obtain ⟨hne, hlne⟩ := hnames _ hmem
    rw [hlower] at hlne
    simp [hne, hlne]

theorem elementName_ne_empty (space : Space) {name : String} (h : name ≠ "") :
    space.elementName name ≠ "" := by
  have hl : Text.lowercase name ≠ "" := mt (Text.lowercase_eq_empty_iff name).mp h
  rcases elementName_eq space name with he | ⟨-, hlower⟩
  · rwa [he]
  · exact fun he => hl (by rw [← hlower, he]; rfl)

end Space

end MarkupTree

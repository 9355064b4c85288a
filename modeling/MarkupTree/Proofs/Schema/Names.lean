import MarkupTree.Proofs.Construction.Spelling
import MarkupTree.Proofs.Schema.Scan

namespace MarkupTree.Schema

@[simp] theorem space_ofSpace (space : Space) : (ofSpace space).space = some space.name := by
  cases space <;> exact space_ofInfos _ _

/-- The first letter of a name can decide the matter, whatever follows. -/
theorem goesPastData_cons {c : Char} (hascii : c.toNat < 128) (hc : c.toLower ≠ 'd')
    (rest : List Char) : goesPastData (c :: rest) = false := by
  simp [goesPastData, Text.lowerFrom_cons_of_ascii hascii, Ne.symm hc]

def ApartFromData (p : String × String) : Prop :=
  goesPastData p.1.toList = false ∧ goesPastData p.2.toList = false

instance (p : String × String) : Decidable (ApartFromData p) := inferInstanceAs (Decidable (_ ∧ _))

theorem apartFromData_qualified {names : List String} {start : String} {c : Char} {cs : List Char}
    (hnames : ∀ p ∈ names, goesPastData p.toList = false) (hstart : start.toList = c :: cs)
    (hascii : c.toNat < 128) (hc : c.toLower ≠ 'd') (n : Nat) :
    ∀ p ∈ names, ApartFromData (p, start ++ afterLetters n p) := by
  intro p hp
  refine ⟨hnames p hp, ?_⟩
  rw [String.toList_append, hstart]
  exact goesPastData_cons hascii hc _

theorem apartFromData_lowercase {names : List String}
    (hnames : ∀ p ∈ names, goesPastData p.toList = false ∧
      goesPastData (Text.lowerFrom [] p.toList) = false) :
    ∀ p ∈ names, ApartFromData (p, Text.lowercase p) := by
  intro p hp
  obtain ⟨hproperty, hattr⟩ := hnames p hp
  refine ⟨hproperty, ?_⟩
  rw [Text.lowercase, String.toList_ofList]
  exact hattr

theorem apartFromData_sharedInfos : ∀ p ∈ sharedInfos, ApartFromData p := by
  have hqualified : ∀ p ∈ linkProperties ++ xmlProperties ++ ariaProperties,
      goesPastData p.toList = false := by decide +kernel
  simp only [List.forall_mem_append] at hqualified
  obtain ⟨⟨hlink, hxml⟩, haria⟩ := hqualified
  simp only [sharedInfos, List.forall_mem_append, List.forall_mem_map]
  refine ⟨⟨⟨?_, ?_⟩, ?_⟩, ?_⟩
  · exact apartFromData_qualified (c := 'x') hlink rfl (by decide) (by decide) 5
  · exact apartFromData_qualified (c := 'x') hxml rfl (by decide) (by decide) 3
  · decide +kernel
  · intro p hp
    split
    · exact ⟨haria p hp, haria p hp⟩
    · exact apartFromData_qualified (c := 'a') haria rfl (by decide) (by decide) 4 p hp

/-- Of the known names only `data` itself starts with these letters, in any case. -/
theorem apartFromData_infosOf (space : Space) : ∀ p ∈ infosOf space, ApartFromData p := by
  cases space with
  | html =>
    simp only [infosOf, htmlInfos, List.forall_mem_append, List.forall_mem_map]
    refine ⟨⟨apartFromData_sharedInfos, apartFromData_lowercase ?_⟩, ?_⟩
    · decide +kernel
    · decide +kernel
  | svg =>
    have hdashed : ∀ a ∈ svgDashedAttributes,
        goesPastData (camelCase a.toList) = false ∧ goesPastData a.toList = false := by
      decide +kernel
    have hnames : ∀ a ∈ svgAttributeNames, goesPastData a.toList = false := by decide +kernel
    simp only [infosOf, svgInfos, List.forall_mem_append, List.forall_mem_map]
    refine ⟨⟨⟨⟨apartFromData_sharedInfos, ?_⟩, fun a ha => ⟨hnames a ha, hnames a ha⟩⟩, ?_⟩, ?_⟩
    · decide +kernel
    · intro a ha
      refine ⟨?_, (hdashed a ha).2⟩
      rw [String.toList_ofList]
      exact (hdashed a ha).1
    · decide +kernel

def listed (space : Space) : List PropertyInfo :=
  (infosOf space).map fun p => ⟨p.1, p.2, some space.name⟩

theorem ofSpace_eq (space : Space) : ofSpace space = ofInfos (some space.name) (listed space) := by
  cases space <;> rfl

theorem lookup?_of_goesPastData (space : Space) {name : String} (h : goesPastData name.toList) :
    (ofSpace space).lookup? name = none := by
  -- A known name of the same lower case would go past `data` as well.
  have hne {known : String} (hknown : goesPastData known.toList = false) :
      Text.lowercase known ≠ Text.lowercase name := by
    intro heq
    have hlower := String.ofList_injective heq
    rw [goesPastData, ← hlower] at h
    exact Bool.false_ne_true (hknown.symm.trans h)
  rw [ofSpace_eq, lookup?_ofInfos_eq_none_iff, listed, List.forall_mem_map]
  intro p hp hnamed
  obtain ⟨hproperty, hattr⟩ := apartFromData_infosOf space p hp
  exact hnamed.elim (hne hproperty) (hne hattr)

end MarkupTree.Schema

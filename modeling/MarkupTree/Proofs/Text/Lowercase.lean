import Mathlib
import MarkupTree.Text.Lowercase

namespace MarkupTree.Text

theorem forall_ascii {P : Char → Prop} (h : ∀ n < 128, P (Char.ofNat n)) {c : Char}
    (hc : c.toNat < 128) : P c := by
  have hn := h c.toNat hc
  rwa [Char.ofNat_toNat] at hn

namespace CaseRange

/-- The image of the first range stays clear of the second range: it lies before it or behind it, or
both go in steps of two and take turns. -/
def misses (r q : CaseRange) : Bool :=
  Nat.blt (r.target + (r.last - r.first)) q.first || Nat.blt q.last r.target ||
    (q.step == 2 && (r.step == 2 || r.first == r.last) && (r.target + q.first) % 2 == 1)

theorem not_contains_of_misses {r q : CaseRange} (h : r.misses q) {n : Nat} (hn : r.contains n) :
    ¬q.contains (r.target + (n - r.first)) := by
  simp only [contains, Bool.and_eq_true, Nat.ble_eq, beq_iff_eq] at hn ⊢
  simp only [misses, Bool.or_eq_true, Nat.blt_eq, Bool.and_eq_true, beq_iff_eq] at h
  obtain ⟨⟨hfirst, hlast⟩, hstep⟩ := hn
  rintro ⟨⟨hfirst', hlast'⟩, hstep'⟩
  rcases h with (hbefore | hbehind) | ⟨⟨hq, hr⟩, hturns⟩
  · omega
  · omega
  · have hsteps : (n - r.first) % 2 = 0 := by
      rcases hr with hr | hr
      · rwa [hr] at hstep
      · omega
    rw [hq] at hstep'
    omega

end CaseRange

def otherCapitals : List CaseRange := [⟨0x41, 0x5A, 1, 0x61⟩, ⟨0x130, 0x130, 1, 0x69⟩]

def capitals : List CaseRange := otherCapitals ++ lowercaseRanges

theorem misses_capitals {r q : CaseRange} (hr : r ∈ lowercaseRanges) (hq : q ∈ capitals) :
    r.misses q := by
  have hall : (lowercaseRanges.all fun r => capitals.all r.misses) = true := by decide +kernel
  exact List.all_eq_true.mp (List.all_eq_true.mp hall r hr) q hq

def IsSettled (c : Char) : Prop := c ≠ '\u03a3' ∧ lowerChar c = [c]

instance (c : Char) : Decidable (IsSettled c) := inferInstanceAs (Decidable (_ ∧ _))

theorem isSettled_of_ascii {c : Char} (hc : c.toNat < 128) (hupper : ¬c.isUpper) : IsSettled c := by
  constructor
  · rintro rfl
    exact absurd hc (by decide)
  · rw [lowerChar, if_pos hc, Char.toLower_eq_of_not_isUpper hupper]

/-- A character that no range of capitals has is settled. -/
theorem isSettled_of_not_contains {c : Char} (h : ∀ q ∈ capitals, ¬q.contains c.toNat) :
    IsSettled c := by
  by_cases hascii : c.toNat < 128
  · refine isSettled_of_ascii hascii fun hupper => ?_
    simp only [Char.isUpper, decide_eq_true_eq, UInt32.le_iff_toNat_le] at hupper
    have hcontains : (CaseRange.mk 0x41 0x5A 1 0x61).contains c.toNat := by
      simpa [CaseRange.contains, Nat.mod_one] using hupper
    exact h _ List.mem_cons_self hcontains
  · have hnot : ¬capitals.any (·.contains c.toNat) := by simpa using h
    have hsigma : c ≠ '\u03a3' := by
      rintro rfl
      exact hnot (by decide +kernel)
    have hdotted : c ≠ '\u0130' := by
      rintro rfl
      exact hnot (by decide +kernel)
    have htable : lowercaseRanges.find? (·.contains c.toNat) = none :=
      List.find?_eq_none.mpr (List.forall_mem_append.mp h).2
    refine ⟨hsigma, ?_⟩
    rw [lowerChar, if_neg hascii, if_neg hdotted, mapCase, htable]

/-- The table settles what it has a range for, and has one for every other capital. -/
theorem isSettled_mapCase {c : Char} (hascii : ¬c.toNat < 128) (hdotted : c ≠ '\u0130') :
    IsSettled (mapCase lowercaseRanges c) := by
  rw [mapCase]
  split
  · next r hr =>
    have hmem := List.mem_of_find?_eq_some hr
    have hcontains := List.find?_some hr
    by_cases hvalid : (r.target + (c.toNat - r.first)).isValidChar
    · refine isSettled_of_not_contains fun q hq => ?_
      rw [Char.toNat_ofNat, if_pos hvalid]
      exact CaseRange.not_contains_of_misses (misses_capitals hmem hq) hcontains
    · rw [Char.ofNat, dif_neg hvalid]
      decide
  · next hnone =>
    refine isSettled_of_not_contains (List.forall_mem_append.mpr ⟨?_, List.find?_eq_none.mp hnone⟩)
    intro q hq hcontains
    obtain rfl | rfl : q = ⟨0x41, 0x5A, 1, 0x61⟩ ∨ q = ⟨0x130, 0x130, 1, 0x69⟩ := by
      simpa [otherCapitals] using hq
    · simp only [CaseRange.contains, Bool.and_eq_true, Nat.ble_eq] at hcontains
      omega
    · simp only [CaseRange.contains, Bool.and_eq_true, Nat.ble_eq] at hcontains
      have hcode : c.toNat = ('\u0130').toNat := Nat.le_antisymm hcontains.1.2 hcontains.1.1
      exact hdotted (Char.toNat_inj.mp hcode)

theorem isSettled_of_mem_lowerChar {c d : Char} (h : d ∈ lowerChar c) : IsSettled d := by
  unfold lowerChar at h
  split at h
  · next hascii =>
    obtain rfl := List.mem_singleton.mp h
    have hlower : c.toLower.toNat < 128 :=
      forall_ascii (P := fun c => c.toLower.toNat < 128) (by decide +kernel) hascii
    exact isSettled_of_ascii hlower (by simp)
  · next hascii =>
    split at h
    · have hboth : IsSettled 'i' ∧ IsSettled '\u0307' := by decide +kernel
      obtain rfl | rfl : d = 'i' ∨ d = '\u0307' := by simpa using h
      · exact hboth.1
      · exact hboth.2
    · next hdotted =>
      obtain rfl := List.mem_singleton.mp h
      exact isSettled_mapCase hascii hdotted

theorem isSettled_of_mem_lowerFrom {d : Char} {before cs : List Char}
    (h : d ∈ lowerFrom before cs) : IsSettled d := by
  induction cs generalizing before with
  | nil => cases h
  | cons c rest ih =>
    rw [lowerFrom] at h
    rcases List.mem_append.mp h with hfirst | hrest
    · split at hfirst
      · have hboth : IsSettled '\u03c2' ∧ IsSettled '\u03c3' := by decide +kernel
        obtain rfl := List.mem_singleton.mp hfirst
        split
        · exact hboth.1
        · exact hboth.2
      · exact isSettled_of_mem_lowerChar hfirst
    · exact ih hrest

theorem lowerFrom_eq_self {cs : List Char} (h : ∀ c ∈ cs, IsSettled c) (before : List Char) :
    lowerFrom before cs = cs := by
  induction cs generalizing before with
  | nil => rfl
  | cons c rest ih =>
    obtain ⟨⟨hsigma, hself⟩, hrest⟩ := List.forall_mem_cons.mp h
    rw [lowerFrom, if_neg hsigma, hself, ih hrest, List.singleton_append]

/-- Nothing is left to do for a text in lower case. -/
theorem lowercase_idempotent (s : String) : lowercase (lowercase s) = lowercase s := by
  have hsettled : ∀ c ∈ lowerFrom [] s.toList, IsSettled c := fun c => isSettled_of_mem_lowerFrom
  rw [lowercase, lowercase, String.toList_ofList, lowerFrom_eq_self hsettled]

end MarkupTree.Text

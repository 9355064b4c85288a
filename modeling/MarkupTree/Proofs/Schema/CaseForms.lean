import Mathlib
import MarkupTree.Schema.DataName

namespace MarkupTree.Schema

def Undashed (cs : List Char) : Prop := cs.IsChain fun a b => a = '-' → ¬b.isLower

section CamelCase
variable {c : Char} {cs : List Char}

theorem camelCase_dash (h : c.isLower) (cs : List Char) :
    camelCase ('-' :: c :: cs) = c.toUpper :: camelCase cs := by
  rw [camelCase, if_pos h]

theorem camelCase_cons (h : c = '-' → ∀ d ∈ cs.head?, ¬d.isLower) :
    camelCase (c :: cs) = c :: camelCase cs := by
  by_cases hc : c = '-'
  · subst hc
    cases cs with
    | nil => rfl
    | cons d cs => rw [camelCase, if_neg (h rfl d rfl)]
  · rw [camelCase]
    rintro _ _ rfl
    exact absurd rfl hc

theorem dashCase_of_isUpper (h : c.isUpper) (cs : List Char) :
    dashCase (c :: cs) = '-' :: c.toLower :: dashCase cs := by
  rw [dashCase, if_pos h]

theorem dashCase_of_not_isUpper (h : ¬c.isUpper) (cs : List Char) :
    dashCase (c :: cs) = c :: dashCase cs := by
  rw [dashCase, if_neg h]

theorem dashCase_append (cs ds : List Char) : dashCase (cs ++ ds) = dashCase cs ++ dashCase ds := by
  induction cs with
  | nil => rfl
  | cons c cs ih =>
    rw [List.cons_append, dashCase, dashCase, ih]
    split <;> rfl

theorem dashCase_eq_self (h : ∀ c ∈ cs, ¬c.isUpper) : dashCase cs = cs := by
  induction cs with
  | nil => rfl
  | cons c cs ih =>
    obtain ⟨hself, hrest⟩ := List.forall_mem_cons.mp h
    rw [dashCase_of_not_isUpper hself, ih hrest]

/-- A text without capitals is read back from its camel case. -/
theorem dashCase_camelCase (h : ∀ c ∈ cs, ¬c.isUpper) : dashCase (camelCase cs) = cs := by
  fun_induction camelCase cs with
  | case1 c rest hc ih =>
    obtain ⟨-, hc', hrest⟩ := (List.forall_mem_cons.mp h).imp_right List.forall_mem_cons.mp
    have hupper : c.toUpper.isUpper := by simp [Char.isAlpha, hc]
    rw [dashCase_of_isUpper hupper, Char.toLower_toUpper_eq_toLower,
      Char.toLower_eq_of_not_isUpper hc', ih hrest]
  | case2 c rest _ ih =>
    rw [dashCase_of_not_isUpper (by decide), ih (List.forall_mem_cons.mp h).2]
  | case3 c rest _ ih =>
    obtain ⟨hself, hrest⟩ := List.forall_mem_cons.mp h
    rw [dashCase_of_not_isUpper hself, ih hrest]
  | case4 => rfl

theorem isLower_head?_dashCase (h : ∀ d ∈ cs.head?, ¬d.isLower) :
    ∀ d ∈ (dashCase cs).head?, ¬d.isLower := by
  cases cs with
  | nil => exact h
  | cons c cs =>
    rw [dashCase]
    split
    · intro d hd
      obtain rfl := Option.some.inj hd
      decide
    · exact h

/-- Dashes bring back a camel case in which no other dash could be taken for one of theirs. -/
theorem camelCase_dashCase (h : Undashed cs) : camelCase (dashCase cs) = cs := by
  induction cs with
  | nil => rfl
  | cons c cs ih =>
    obtain ⟨hstart, hrest⟩ := List.isChain_cons.mp h
    by_cases hc : c.isUpper
    · have hlower : c.toLower.isLower := by simp [Char.isAlpha, hc]
      rw [dashCase_of_isUpper hc, camelCase_dash hlower, Char.toUpper_toLower_eq_toUpper,
        Char.toUpper_eq_of_not_isLower (Char.not_isLower_of_isUpper hc), ih hrest]
    · have hhead (hdash : c = '-') : ∀ d ∈ (dashCase cs).head?, ¬d.isLower :=
        isLower_head?_dashCase fun d hd => hstart d hd hdash
      rw [dashCase_of_not_isUpper hc, camelCase_cons hhead, ih hrest]

theorem isLower_head?_camelCase (h : ∀ d ∈ cs.head?, ¬d.isLower) :
    ∀ d ∈ (camelCase cs).head?, ¬d.isLower := by
  fun_cases camelCase cs with
  | case1 c rest _ =>
    intro d hd
    obtain rfl := Option.some.inj hd
    simp
  | case2 c rest _ => exact h
  | case3 c rest _ => exact h
  | case4 => exact h

theorem undashed_camelCase (cs : List Char) : Undashed (camelCase cs) := by
  fun_induction camelCase cs with
  | case1 c rest hc ih =>
    refine List.isChain_cons.mpr ⟨fun d _ hdash => ?_, ih⟩
    have hupper : c.toUpper.isUpper := by simp [Char.isAlpha, hc]
    rw [hdash] at hupper
    exact absurd hupper (by decide)
  | case2 c rest hc ih =>
    -- A dash stays only where no small letter follows, and camel case makes none of what follows.
    have hhead : ∀ d ∈ (camelCase (c :: rest)).head?, ¬d.isLower :=
      isLower_head?_camelCase fun d hd => Option.some.inj hd ▸ hc
    exact List.isChain_cons.mpr ⟨fun d hd _ => hhead d hd, ih⟩
  | case3 c rest hlast ih =>
    refine List.isChain_cons.mpr ⟨fun d hd hdash => ?_, ih⟩
    cases rest with
    | nil => cases hd
    | cons e rest => exact (hlast e rest hdash rfl).elim
  | case4 => exact .nil

theorem forall_mem_camelCase {P : Char → Prop} (h : ∀ c ∈ cs, P c)
    (hupper : ∀ c : Char, c.isUpper → P c) : ∀ c ∈ camelCase cs, P c := by
  fun_induction camelCase cs with
  | case1 c rest hc ih =>
    obtain ⟨-, -, hrest⟩ := (List.forall_mem_cons.mp h).imp_right List.forall_mem_cons.mp
    exact List.forall_mem_cons.mpr ⟨hupper _ (by simp [Char.isAlpha, hc]), ih hrest⟩
  | case2 c rest _ ih | case3 c rest _ ih =>
    obtain ⟨hself, hrest⟩ := List.forall_mem_cons.mp h
    exact List.forall_mem_cons.mpr ⟨hself, ih hrest⟩
  | case4 => exact h

theorem forall_mem_dashCase {P : Char → Prop} (h : ∀ c ∈ cs, ¬c.isUpper → P c)
    (hlower : ∀ c : Char, c.isLower → P c) (hdash : P '-') : ∀ c ∈ dashCase cs, P c := by
  fun_induction dashCase cs with
  | case1 c rest hc ih =>
    have hrest := ih (List.forall_mem_cons.mp h).2
    simp only [List.forall_mem_cons]
    exact ⟨hdash, hlower _ (by simp [Char.isAlpha, hc]), hrest⟩
  | case2 c rest hc ih =>
    obtain ⟨hself, hrest⟩ := List.forall_mem_cons.mp h
    exact List.forall_mem_cons.mpr ⟨hself hc, ih hrest⟩
  | case3 => exact nofun

end CamelCase

end MarkupTree.Schema

import Mathlib.Data.List.Forall2
import Mathlib.Data.List.Nodup
import Mathlib.Data.List.Perm.Subperm
import MarkupTree.Proofs.Entries
import MarkupTree.Value.Basic

namespace MarkupTree

namespace Value

abbrev SameOption : Option Value → Option Value → Prop := Option.Rel fun v w => v == w

theorem string_beq_iff {s : String} {v : Value} : (string s == v) ↔ v = string s := by
  show same (string s) v = true ↔ _
  cases v with
  | string t =>
    rw [same, beq_iff_eq, string.injEq]
    exact eq_comm
  | _ => simp [same, asNumber?]

theorem bool_beq_iff {b c : Bool} : (bool b == bool c) ↔ b = c := by
  show same (bool b) (bool c) = true ↔ _
  cases b <;> cases c <;> decide

theorem ofInt?_beq_iff {m n : Option Int} : (ofInt? m == ofInt? n) ↔ m = n := by
  show same (ofInt? m) (ofInt? n) = true ↔ _
  cases m <;> cases n <;> simp [same, asNumber?, sameNumber, ofInt?, Int.pow]

theorem list_beq {xs ys : List Value} (h : list xs == list ys) :
    List.Forall₂ (fun v w => v == w) xs ys := by
  replace h : sameItems xs ys = true := h
  induction xs generalizing ys with
  | nil =>
    cases ys with
    | nil => exact .nil
    | cons y ys => cases h
  | cons x xs ih =>
    cases ys with
    | nil => cases h
    | cons y ys =>
      rw [sameItems, Bool.and_eq_true] at h
      exact .cons h.1 (ih h.2)

section
variable {es fs : List (String × Value)}

theorem sameEntries_iff :
    sameEntries es fs ↔ ∀ p ∈ es, ∃ w, Entries.get? p.1 fs = some w ∧ p.2 == w := by
  induction es with
  | nil => simp [sameEntries]
  | cons p rest ih =>
    obtain ⟨k, v⟩ := p
    rw [sameEntries, Bool.and_eq_true, ih, List.forall_mem_cons]
    refine and_congr_left' ?_
    cases Entries.get? k fs with
    | none => simp
    | some w => simp [BEq.beq]

theorem record_beq_iff : (record es == record fs) ↔ es.length = fs.length ∧
    ∀ p ∈ es, ∃ w, Entries.get? p.1 fs = some w ∧ p.2 == w := by
  rw [← sameEntries_iff, ← beq_iff_eq (a := es.length), ← Bool.and_eq_true]
  exact .rfl

variable (hkeys : (Entries.keys es).Nodup) (h : record es == record fs)
include hkeys h

theorem keys_perm_of_beq : (Entries.keys es).Perm (Entries.keys fs) := by
  obtain ⟨hlength, hvalues⟩ := record_beq_iff.mp h
  have hsub : Entries.keys es ⊆ Entries.keys fs := by
    intro k hk
    obtain ⟨p, hp, rfl⟩ := List.mem_map.mp hk
    obtain ⟨w, hw, -⟩ := hvalues p hp
    exact List.mem_map.mpr ⟨_, Entries.mem_of_get? hw, rfl⟩
  refine (hkeys.subperm hsub).perm_of_length_le ?_
  simp only [Entries.keys, List.length_map, hlength, Nat.le_refl]

theorem get?_of_beq (key : String) :
    SameOption (Entries.get? key es) (Entries.get? key fs) := by
  have hperm := keys_perm_of_beq hkeys h
  cases hes : Entries.get? key es with
  | some v =>
    obtain ⟨w, hw, hsame⟩ := (record_beq_iff.mp h).2 _ (Entries.mem_of_get? hes)
    rw [hw]
    exact .some hsame
  | none =>
    have hnone : Entries.get? key fs = none := by
      rw [Entries.get?_eq_none_iff, ← hperm.mem_iff, ← Entries.get?_eq_none_iff, hes]
    rw [hnone]
    exact .none

end

/-- Records of entries that can be told apart by their values are equal if the entries are the
same ones, in any order. -/
theorem perm_of_record_beq {ν : Type} {f : ν → Value} {xs ys : Entries String ν}
    (hkeys : (Entries.keys xs).Nodup) (hf : ∀ p ∈ xs, ∀ w, f p.2 == f w → p.2 = w)
    (h : record (xs.map fun p => (p.1, f p.2)) == record (ys.map fun p => (p.1, f p.2))) :
    xs.Perm ys := by
  obtain ⟨hlength, hvalues⟩ := record_beq_iff.mp h
  rw [List.length_map, List.length_map] at hlength
  have hsub : xs ⊆ ys := by
    intro p hp
    obtain ⟨_, hw, hsame⟩ := hvalues _ (List.mem_map_of_mem hp)
    obtain ⟨q, hq, hpair⟩ := List.mem_map.mp (Entries.mem_of_get? hw)
    obtain ⟨hkey, rfl⟩ := Prod.mk.inj hpair
    obtain rfl : q = p := Prod.ext hkey (hf p hp q.2 hsame).symm
    exact hq
  exact ((List.Nodup.of_map _ hkeys).subperm hsub).perm_of_length_le (Nat.le_of_eq hlength.symm)

end Value

end MarkupTree

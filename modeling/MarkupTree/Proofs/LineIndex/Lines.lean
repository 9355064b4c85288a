import MarkupTree.Proofs.LineIndex.Search

namespace MarkupTree

theorem le_of_mem_lineEnds {offset e : Nat} {cs : List Char} (h : e ∈ lineEnds offset cs) :
    e ≤ offset + cs.length := by
  fun_induction lineEnds offset cs with
  | case5 => cases h
  | case4 offset c rest _ _ _ ih =>
    have := ih h
    rw [List.length_cons]
    omega
  | case1 offset rest ih | case2 offset rest _ ih | case3 offset rest ih =>
    simp only [List.length_cons]
    rcases List.mem_cons.mp h with rfl | hrest
    · omega
    · have := ih hrest
      omega

/-- No two line endings share a character, so each one ends after the one before it. -/
theorem pairwise_lineEnds (offset : Nat) (cs : List Char) :
    (lineEnds offset cs).Pairwise (· < ·) := by
  fun_induction lineEnds offset cs with
  | case5 => exact .nil
  | case4 _ _ _ _ _ _ ih => exact ih
  | case1 offset rest ih | case2 offset rest _ ih | case3 offset rest ih =>
    exact .cons (fun e he => lt_of_mem_lineEnds he) ih

section
variable {xs : Array Nat} {n lo hi : Nat} {h : hi ≤ xs.size}

theorem le_countUpTo (hle : lo ≤ hi) : lo ≤ countUpTo xs n lo hi h := by
  fun_induction countUpTo xs n lo hi h with
  | case1 lo hi h hlt hn ih => exact ih (by omega)
  | case2 lo hi h hlt hn ih => have := ih (by omega); omega
  | case3 lo hi h hlt => exact Nat.le_refl lo

theorem lt_countUpTo_iff (hxs : ∀ i j (_ : i ≤ j) (hj : j < xs.size), xs[i] ≤ xs[j]) {i : Nat}
    (hlo : lo ≤ i) (hhi : i < hi) : i < countUpTo xs n lo hi h ↔ xs[i] ≤ n := by
  fun_induction countUpTo xs n lo hi h with
  | case1 lo hi h hlt hn ih =>
    by_cases hmid : i < (lo + hi) / 2
    · exact ih hxs hlo hmid
    · have hle := countUpTo_le xs n lo ((lo + hi) / 2) (by omega) (by omega)
      have hlast := hxs ((lo + hi) / 2) i (by omega) (by omega)
      omega
  | case2 lo hi h hlt hn ih =>
    by_cases hmid : i ≤ (lo + hi) / 2
    · have hle : (lo + hi) / 2 + 1 ≤ countUpTo xs n ((lo + hi) / 2 + 1) hi h :=
        le_countUpTo (by omega)
      have hfirst := hxs i ((lo + hi) / 2) hmid (by omega)
      omega
    · exact ih hxs (by omega) hhi
  | case3 lo hi h hlt => omega

end

namespace LineIndex

/-- The line ends ascend, and the last of them is past the last offset. -/
structure Ascending (index : LineIndex) : Prop where
  lt : ∀ i j (_ : i < j) (hj : j < index.ends.size), index.ends[i] < index.ends[j]
  nonempty : 0 < index.ends.size
  last : index.ends[index.ends.size - 1] = index.length + 1

theorem ofText_ascending (text : String) : (ofText text).Ascending := by
  refine ⟨fun i j hij hj => ?_, ?_, ?_⟩
  · have hends : (lineEnds 0 text.toList ++ [text.toList.length + 1]).Pairwise (· < ·) := by
      rw [List.pairwise_append]
      refine ⟨pairwise_lineEnds 0 _, List.pairwise_singleton _ _, fun e he last hlast => ?_⟩
      have hle := le_of_mem_lineEnds he
      rw [List.mem_singleton.mp hlast]
      omega
    exact List.pairwise_iff_getElem.mp hends i j _ _ hij
  · simp [ofText]
  · simp [ofText]

namespace Ascending
variable {index : LineIndex} (h : index.Ascending)
include h

theorem le {i j : Nat} (hij : i ≤ j) (hj : j < index.ends.size) :
    index.ends[i] ≤ index.ends[j] := by
  rcases Nat.eq_or_lt_of_le hij with rfl | hlt
  · exact Nat.le_refl _
  · exact Nat.le_of_lt (h.lt i j hlt hj)

/-- A line end is behind an offset exactly if it is one of those up to the offset. -/
theorem lt_linesBefore_iff {i : Nat} (offset : Nat) (hi : i < index.ends.size) :
    i < index.linesBefore offset ↔ index.ends[i] ≤ offset :=
  lt_countUpTo_iff (fun _ _ hij hj => h.le hij hj) (Nat.zero_le i) hi

theorem linesBefore_mono {a b : Nat} (hab : a ≤ b) : index.linesBefore a ≤ index.linesBefore b := by
  refine Nat.le_of_not_lt fun hlt => ?_
  have hle := index.linesBefore_le a
  have hi : index.linesBefore b < index.ends.size := by omega
  have hend := (h.lt_linesBefore_iff a hi).mp hlt
  have hcounted := (h.lt_linesBefore_iff b hi).mpr (Nat.le_trans hend hab)
  omega

theorem linesBefore_lt {offset : Nat} (ho : offset ≤ index.length) :
    index.linesBefore offset < index.ends.size := by
  have hpos := h.nonempty
  have hlast := h.last
  have := h.lt_linesBefore_iff offset (Nat.sub_one_lt_of_lt hpos)
  omega

theorem lt_end {offset : Nat} (hi : index.linesBefore offset < index.ends.size) :
    offset < index.ends[index.linesBefore offset] := by
  have := h.lt_linesBefore_iff offset hi
  omega

theorem end_le {i : Nat} (hi : i < index.ends.size) : index.ends[i] ≤ index.length + 1 := by
  rw [← h.last]
  exact h.le (by omega) _

/-- The line of an offset is the one whose start and end the offset lies between. -/
theorem linesBefore_eq {i offset : Nat} (hi : i < index.ends.size)
    (hstart : index.startAfter i (Nat.le_of_lt hi) ≤ offset) (hend : offset < index.ends[i]) :
    index.linesBefore offset = i := by
  have hcounted := h.lt_linesBefore_iff offset hi
  cases i with
  | zero => omega
  | succ i =>
    have hbefore := (h.lt_linesBefore_iff offset (Nat.lt_of_succ_lt hi)).mpr hstart
    omega

end Ascending

end LineIndex

end MarkupTree

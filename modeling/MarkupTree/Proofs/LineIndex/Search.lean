import MarkupTree.LineIndex
import MarkupTree.Proofs.Position

namespace MarkupTree

/-- The last of the entries that are counted is at most `n`, whatever the order of the array. -/
theorem countUpTo_last_le {xs : Array Nat} {n lo hi : Nat} {h : hi ≤ xs.size}
    (hlo : ∀ i (_ : i < xs.size), i + 1 = lo → xs[i] ≤ n) :
    ∀ i (_ : i < xs.size), i + 1 = countUpTo xs n lo hi h → xs[i] ≤ n := by
  fun_induction countUpTo xs n lo hi h with
  | case1 lo hi h hlt hn ih => exact ih hlo
  | case2 lo hi h hlt hn ih =>
    apply ih
    intro i _ hmid
    -- The lower end has moved right behind the entry in the middle.
    obtain rfl : i = (lo + hi) / 2 := Nat.succ.inj hmid
    exact Nat.le_of_not_lt hn
  | case3 lo hi h hlt => exact hlo

theorem lt_of_mem_lineEnds {offset e : Nat} {cs : List Char} (h : e ∈ lineEnds offset cs) :
    offset < e := by
  fun_induction lineEnds offset cs with
  | case5 => cases h
  | case4 offset c rest _ _ _ ih => exact Nat.lt_of_succ_lt (ih h)
  | case1 offset rest ih | case2 offset rest _ ih | case3 offset rest ih =>
    rcases List.mem_cons.mp h with rfl | hrest
    · omega
    · have := ih hrest
      omega

namespace LineIndex

theorem last_le_of_linesBefore {index : LineIndex} {offset i : Nat} (hi : i < index.ends.size)
    (h : i + 1 = index.linesBefore offset) : index.ends[i] ≤ offset :=
  countUpTo_last_le (fun _ _ hzero => absurd hzero (Nat.succ_ne_zero _)) i hi h

theorem startAfter_le (index : LineIndex) (offset : Nat) :
    index.startAfter (index.linesBefore offset) (index.linesBefore_le offset) ≤ offset := by
  have hle := index.linesBefore_le offset
  unfold startAfter
  split
  · next hpos => exact last_le_of_linesBefore (by omega) (by omega)
  · exact Nat.zero_le offset

theorem pointAt_known (index : LineIndex) (offset : Nat) : (index.pointAt offset).Known := by
  have hstart := index.startAfter_le offset
  exact ⟨⟨_, rfl, by omega⟩, _, rfl, by omega⟩

theorem toPoint_eq {index : LineIndex} {offset : Nat} (h : offset ≤ index.length) :
    index.toPoint (some offset) = some (index.pointAt offset) := by
  rw [toPoint, if_pos (by omega)]
  rfl

theorem ends_ofText_pos {text : String} {i : Nat} (hi : i < (ofText text).ends.size) :
    0 < (ofText text).ends[i] := by
  have hmem := Array.getElem_mem hi
  generalize (ofText text).ends[i] = e at hmem
  have hends : e ∈ lineEnds 0 text.toList ++ [text.toList.length + 1] :=
    List.mem_toArray.mp hmem
  rcases List.mem_append.mp hends with hmem | hmem
  · exact lt_of_mem_lineEnds hmem
  · have := List.mem_singleton.mp hmem
    omega

theorem pointAt_zero (text : String) : (ofText text).pointAt 0 = ⟨some 1, some 1, some 0⟩ := by
  have hzero : (ofText text).linesBefore 0 = 0 := by
    have hle := (ofText text).linesBefore_le 0
    cases hlines : (ofText text).linesBefore 0 with
    | zero => rfl
    | succ i =>
      have hi : i < (ofText text).ends.size := by omega
      have hpos := ends_ofText_pos hi
      have hlast := last_le_of_linesBefore hi hlines.symm
      omega
  simp [pointAt, hzero, startAfter]

def whole (index : LineIndex) : Position :=
  ⟨index.toPoint (some 0), index.toPoint (some index.length)⟩

theorem whole_eq (index : LineIndex) :
    index.whole = ⟨some (index.pointAt 0), some (index.pointAt index.length)⟩ := by
  have hstart : index.toPoint (some 0) = some (index.pointAt 0) := toPoint_eq (Nat.zero_le _)
  rw [whole, hstart, toPoint_eq (Nat.le_refl _)]

theorem whole_ofText (text : String) :
    (ofText text).whole =
      ⟨some ⟨some 1, some 1, some 0⟩, (ofText text).toPoint (some text.length)⟩ := by
  have hlength : (ofText text).length = text.length := String.length_toList
  rw [whole, hlength]
  congr 1
  rw [← pointAt_zero text]
  exact toPoint_eq (Nat.zero_le _)

theorem whole_endsSatisfy {Good : Point → Prop} {index : LineIndex}
    (hstart : Good (index.pointAt 0))
    (hfinish : Good (index.pointAt index.length)) : index.whole.EndsSatisfy Good := by
  rw [whole_eq]
  refine ⟨.inl rfl, ?_, ?_⟩
  · rintro q ⟨⟩
    exact hstart
  · rintro q ⟨⟩
    exact hfinish

theorem whole_endsKnown (index : LineIndex) : index.whole.EndsSatisfy Point.Known :=
  whole_endsSatisfy (index.pointAt_known 0) (index.pointAt_known index.length)

end LineIndex

end MarkupTree

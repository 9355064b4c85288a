import MarkupTree.Proofs.LineIndex.Reading

namespace MarkupTree

/-- How many line endings a text has. A carriage return and a line feed in this order are one. -/
def lineEndings (cs : List Char) : Nat :=
  (List.range cs.length).countP fun i => cs[i]?.any fun c => EndsLine c cs[i + 1]?

theorem lineEndings_cons (c : Char) (rest : List Char) :
    lineEndings (c :: rest) = lineEndings rest + if EndsLine c rest.head? then 1 else 0 := by
  rw [lineEndings, List.length_cons, List.range_succ_eq_map, List.countP_cons, List.countP_map,
    List.head?_eq_getElem?]
  simp [lineEndings, Function.comp_def]

theorem length_lineEnds (offset : Nat) (cs : List Char) :
    (lineEnds offset cs).length = lineEndings cs := by
  induction cs generalizing offset with
  | nil => rfl
  | cons c rest ih =>
    rw [lineEnds_cons, lineEndings_cons]
    split
    · rw [List.length_cons, ih]
    · rw [ih, Nat.add_zero]

example : lineEnds 0 "a\r\n\n\rb".toList = [3, 4, 5] ∧ lineEndings "a\r\n\n\rb".toList = 3 := by
  decide +kernel

theorem readAt?_natCast {xs : Array Nat} {n : Nat} (h : n < xs.size) :
    readAt? xs n = some xs[n] :=
  dif_pos ⟨Int.natCast_nonneg n, Int.ofNat_lt.mpr h⟩

/-- The search reads between its bounds only. -/
theorem readCount?_eq {xs : Array Nat} {n lo hi : Nat} (h : hi ≤ xs.size) :
    readCount? xs n lo hi = some (countUpTo xs n lo hi h) := by
  fun_induction countUpTo xs n lo hi h with
  | case1 lo hi h hlt hn ih =>
    have hmid : (lo + hi) / 2 < xs.size := by omega
    rw [readCount?, if_pos hlt, readAt?_natCast hmid]
    exact (if_pos hn).trans ih
  | case2 lo hi h hlt hn ih =>
    have hmid : (lo + hi) / 2 < xs.size := by omega
    rw [readCount?, if_pos hlt, readAt?_natCast hmid]
    exact (if_neg hn).trans ih
  | case3 lo hi h hlt => rw [readCount?, if_neg hlt]

namespace LineIndex

/-- What holds of the line ends that are kept for a text. The last one is a guard, so that the end
of the text lies on a line too. -/
structure Represents (index : LineIndex) (text : String) : Prop where
  length_eq : index.length = text.length
  ascending : index.ends.toList.Pairwise (· < ·)
  pos : ∀ e ∈ index.ends, 0 < e
  size_eq : index.ends.size = lineEndings text.toList + 1
  le_length : ∀ e ∈ index.ends.toList.dropLast, e ≤ text.length
  last_eq : index.ends.back? = some (text.length + 1)

theorem ofText_represents (text : String) : (ofText text).Represents text where
  length_eq := String.length_toList
  ascending := List.pairwise_iff_getElem.mpr fun i j _ hj hij =>
    (ofText_ascending text).lt i j hij hj
  pos e he := by
    obtain ⟨i, hi, rfl⟩ := Array.getElem_of_mem he
    exact ends_ofText_pos hi
  size_eq := by simp [ofText, length_lineEnds]
  le_length e he := by
    have hmem : e ∈ lineEnds 0 text.toList := by
      simpa [ofText] using he
    have hle := le_of_mem_lineEnds hmem
    rwa [Nat.zero_add, String.length_toList] at hle
  last_eq := by simp [ofText, String.length_toList]

variable {index : LineIndex}

theorem readStart?_eq {n : Nat} (h : n ≤ index.ends.size) :
    index.readStart? n = some (index.startAfter n h) := by
  unfold readStart? startAfter
  by_cases hn : 0 < n
  · have hlast : (n : Int) - 1 = (n - 1 : Nat) := by omega
    rw [if_pos (by omega), dif_pos hn, hlast, readAt?_natCast (by omega)]
  · rw [if_neg (by omega), dif_neg hn]

theorem readPoint?_eq (offset : Option Int) :
    index.readPoint? offset = some (index.toPoint offset) := by
  cases offset with
  | none => rfl
  | some offset =>
    rw [readPoint?, toPoint]
    by_cases hrange : 0 ≤ offset ∧ offset ≤ index.length
    · obtain ⟨n, rfl⟩ := Int.eq_ofNat_of_zero_le hrange.1
      have hcount : readCount? index.ends n 0 index.ends.size = some (index.linesBefore n) :=
        readCount?_eq _
      rw [if_neg (by omega), if_pos hrange, Int.toNat_natCast, hcount]
      simp only [Option.bind_eq_bind, Option.bind_some, readStart?_eq (index.linesBefore_le n)]
      rfl
    · rw [if_pos (by omega), if_neg hrange]

theorem readOffset?_eq (p : Point) : index.readOffset? p = some (index.toOffset p) := by
  obtain ⟨line | line, column | column, offset⟩ := p
  · rfl
  · rfl
  · rfl
  · simp only [readOffset?, toOffset]
    by_cases hplace : 1 ≤ line ∧ 1 ≤ column ∧ line ≤ index.ends.size
    · have hline : line - 1 = (line.toNat - 1 : Nat) := by omega
      rw [if_neg (by omega), dif_pos hplace, hline, readStart?_eq (by omega),
        readAt?_natCast (by omega)]
      simp only [Option.bind_eq_bind, Option.bind_some, Option.pure_def, ← Int.not_lt, ite_not]
    · rw [if_pos (by omega), dif_neg hplace]

/-- The line ends of every text ascend from above zero. There is one for each line ending and one
behind the end of the text. No lookup of any offset or any place reads outside of them. -/
theorem lookups_stay_inside (text : String) :
    (ofText text).Represents text ∧
      (∀ offset, (ofText text).readPoint? offset = some ((ofText text).toPoint offset)) ∧
      ∀ p, (ofText text).readOffset? p = some ((ofText text).toOffset p) :=
  ⟨ofText_represents text, readPoint?_eq, readOffset?_eq⟩

end LineIndex

end MarkupTree

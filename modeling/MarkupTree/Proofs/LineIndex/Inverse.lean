import MarkupTree.Proofs.LineIndex.Lines

namespace MarkupTree

/-- Both points have a line and a column, and the first one comes first in reading order. -/
def Point.Before (p q : Point) : Prop :=
  ∃ line column line' column', p.line = some line ∧ p.column = some column ∧
    q.line = some line' ∧ q.column = some column' ∧
    (line < line' ∨ line = line' ∧ column < column')

def Point.SamePlace (p q : Point) : Prop := p.line = q.line ∧ p.column = q.column

namespace LineIndex
variable {index : LineIndex}

theorem toPoint_eq_some_iff {o : Int} {p : Point} :
    index.toPoint (some o) = some p ↔
      ∃ n : Nat, o = n ∧ n ≤ index.length ∧ p = index.pointAt n := by
  constructor
  · intro h
    rw [toPoint] at h
    split at h
    · next ho => exact ⟨o.toNat, by omega, by omega, (Option.some.inj h).symm⟩
    · cases h
  · rintro ⟨n, rfl, hn, rfl⟩
    exact toPoint_eq hn

/-- A place has an offset if it is in a column before the end of its line. -/
theorem toOffset_eq_some_iff {p : Point} {o : Int} :
    index.toOffset p = some o ↔ ∃ (i column : Nat) (hi : i < index.ends.size),
      p.line = some (i + 1 : Int) ∧ p.column = some (column + 1 : Int) ∧
        o = index.startAfter i (Nat.le_of_lt hi) + column ∧ o < index.ends[i] := by
  obtain ⟨line, column, offset⟩ := p
  constructor
  · intro h
    unfold toOffset at h
    split at h
    · next line column hline hcolumn =>
      dsimp only at hline hcolumn
      subst hline hcolumn
      split at h
      · next hplace =>
        dsimp only at h
        split at h
        · next hend =>
          cases h
          refine ⟨line.toNat - 1, (column - 1).toNat, by omega, ?_, ?_, by omega, hend⟩
          · exact congrArg some (by omega)
          · exact congrArg some (by omega)
        · cases h
      · cases h
    · cases h
  · rintro ⟨i, c, hi, hline, hcolumn, ho, hend⟩
    dsimp only at hline hcolumn
    subst hline hcolumn
    have hplace : 1 ≤ (i + 1 : Int) ∧ 1 ≤ (c + 1 : Int) ∧ (i + 1 : Int) ≤ index.ends.size := by
      omega
    have hi' : (i + 1 : Int).toNat - 1 = i := by omega
    have hoffset : (index.startAfter i (Nat.le_of_lt hi) : Int) + (c + 1) - 1 = o := by omega
    simp only [toOffset, dif_pos hplace, hi', hoffset, if_pos hend]

namespace Ascending
variable (h : index.Ascending)
include h

/-- A place has the offset whose point has this line and column. -/
theorem toOffset_eq_some_iff_toPoint {p : Point} {o : Int} :
    index.toOffset p = some o ↔ ∃ q, index.toPoint (some o) = some q ∧ q.SamePlace p := by
  simp only [toOffset_eq_some_iff, toPoint_eq_some_iff]
  constructor
  · rintro ⟨i, column, hi, hline, hcolumn, rfl, hend⟩
    have hlength := h.end_le hi
    have hlines := h.linesBefore_eq hi (Nat.le_add_right _ column) (by omega)
    refine ⟨_, ⟨index.startAfter i (Nat.le_of_lt hi) + column, by omega, by omega, rfl⟩, ?_, ?_⟩
    · simp only [pointAt, hlines, hline]
    · simp only [pointAt, hlines, hcolumn]
      exact congrArg some (by omega)
  · rintro ⟨_, ⟨n, rfl, hn, rfl⟩, hline, hcolumn⟩
    have hi := h.linesBefore_lt hn
    have hend := h.lt_end hi
    have hstart := index.startAfter_le n
    refine ⟨index.linesBefore n, n - index.startAfter (index.linesBefore n) (Nat.le_of_lt hi), hi,
      hline.symm, hcolumn.symm.trans (congrArg some ?_), ?_, ?_⟩
    · omega
    · omega
    · omega

theorem toOffset_of_toPoint {p : Point} {o : Int} (hp : index.toPoint (some o) = some p) :
    p.offset = some o ∧ index.toOffset p = some o := by
  refine ⟨?_, h.toOffset_eq_some_iff_toPoint.mpr ⟨p, hp, rfl, rfl⟩⟩
  obtain ⟨n, rfl, -, rfl⟩ := toPoint_eq_some_iff.mp hp
  rfl

/-- Offsets are in the order in which their points are read. -/
theorem pointAt_before_iff {m n : Nat} :
    (index.pointAt m).Before (index.pointAt n) ↔ m < n := by
  have hm := index.startAfter_le m
  have hn := index.startAfter_le n
  constructor
  · rintro ⟨_, _, _, _, ⟨⟩, ⟨⟩, ⟨⟩, ⟨⟩, hline | ⟨hline, hcolumn⟩⟩
    · refine Nat.lt_of_not_le fun hle => ?_
      have := h.linesBefore_mono hle
      omega
    · have hlines : index.linesBefore m = index.linesBefore n := by omega
      simp only [hlines] at hcolumn hm
      omega
  · intro hlt
    refine ⟨_, _, _, _, rfl, rfl, rfl, rfl, ?_⟩
    rcases Nat.lt_or_eq_of_le (h.linesBefore_mono (Nat.le_of_lt hlt)) with hlines | hlines
    · exact .inl (by omega)
    · refine .inr ⟨by rw [hlines], ?_⟩
      simp only [hlines] at hm ⊢
      omega

end Ascending

/-- Offsets of a text and its places are the same in another form. Every offset of the text, its
end included, has a point that leads back to it, and no other number has one. A place has an
offset exactly if it is that of a point, and then the offset of this point. Offsets are ordered as
their places are, by line first and then by column. -/
theorem toPoint_toOffset_iso (text : String) :
    let index := ofText text
    (∀ o : Int, 0 ≤ o ∧ o ≤ text.length → ∃ p, index.toPoint (some o) = some p ∧
      p.offset = some o ∧ index.toOffset p = some o) ∧
    (∀ p o, index.toOffset p = some o → (0 ≤ o ∧ o ≤ text.length) ∧
      ∃ q, index.toPoint (some o) = some q ∧ q.SamePlace p) ∧
    (∀ p, index.toOffset p = none ↔
      ¬∃ o q, index.toPoint (some o) = some q ∧ q.SamePlace p) ∧
    (∀ o : Int, ¬(0 ≤ o ∧ o ≤ text.length) → index.toPoint (some o) = none) ∧
    ∀ o o' p p', index.toPoint (some o) = some p → index.toPoint (some o') = some p' →
      (o < o' ↔ p.Before p') := by
  intro index
  have hlength : index.length = text.length := String.length_toList
  have h : index.Ascending := ofText_ascending text
  refine ⟨fun o ho => ?_, fun p o hoffset => ?_, fun p => ?_, fun o ho => ?_, ?_⟩
  · obtain ⟨n, rfl⟩ := Int.eq_ofNat_of_zero_le ho.1
    have hpoint : index.toPoint (some n) = some (index.pointAt n) := toPoint_eq (by omega)
    exact ⟨_, hpoint, h.toOffset_of_toPoint hpoint⟩
  · obtain ⟨q, hq, hplace⟩ := h.toOffset_eq_some_iff_toPoint.mp hoffset
    obtain ⟨n, rfl, hn, -⟩ := toPoint_eq_some_iff.mp hq
    exact ⟨by omega, q, hq, hplace⟩
  · rw [Option.eq_none_iff_forall_ne_some]
    simp only [ne_eq, h.toOffset_eq_some_iff_toPoint, not_exists]
  · rw [toPoint, if_neg (by omega)]
  · intro o o' p p' hp hp'
    obtain ⟨m, rfl, -, rfl⟩ := toPoint_eq_some_iff.mp hp
    obtain ⟨n, rfl, -, rfl⟩ := toPoint_eq_some_iff.mp hp'
    rw [h.pointAt_before_iff]
    omega

/-- The second line is empty, and the first one ends in two characters. -/
theorem toPoint_toOffset_iso_emptyLine :
    let index := ofText "a\r\n\nb"
    (∃ p, index.toPoint (some 2) = some p ∧ p.offset = some 2 ∧ index.toOffset p = some 2) ∧
    (∃ q, index.toPoint (some 3) = some q ∧ q.SamePlace ⟨some 2, some 1, none⟩) ∧
    (¬∃ o q, index.toPoint (some o) = some q ∧ q.SamePlace ⟨some 2, some 2, none⟩) ∧
    index.toPoint (some 6) = none ∧
    Point.Before ⟨some 1, some 3, some 2⟩ ⟨some 2, some 1, some 3⟩ := by
  obtain ⟨hpoint, hoffset, hnone, hrange, horder⟩ := toPoint_toOffset_iso "a\r\n\nb"
  refine ⟨hpoint 2 (by decide), (hoffset ⟨some 2, some 1, none⟩ 3 (by decide +kernel)).2,
    (hnone ⟨some 2, some 2, none⟩).mp (by decide +kernel), hrange 6 (by decide), ?_⟩
  exact (horder 2 3 _ _ (by decide +kernel) (by decide +kernel)).mp (by decide)

end LineIndex

end MarkupTree

import MarkupTree.Proofs.LineIndex.Lines

namespace MarkupTree

/-- A line ends after a line feed, and after a carriage return that no line feed follows. -/
def EndsLine (c : Char) (next? : Option Char) : Prop :=
  c = '\n' ∨ c = '\r' ∧ next? ≠ some '\n'

instance (c : Char) (next? : Option Char) : Decidable (EndsLine c next?) :=
  inferInstanceAs (Decidable (_ ∨ _ ∧ _))

/-- The place of a reader who goes through a text from left to right. -/
structure Cursor where
  line : Nat
  column : Nat
  deriving DecidableEq, Repr

namespace Cursor

def origin : Cursor := ⟨1, 1⟩

def past (cursor : Cursor) (c : Char) (next? : Option Char) : Cursor :=
  if EndsLine c next? then ⟨cursor.line + 1, 1⟩ else ⟨cursor.line, cursor.column + 1⟩

def read (cursor : Cursor) : List Char → Nat → Cursor
  | c :: rest, n + 1 => (cursor.past c rest.head?).read rest n
  | _, _ => cursor

end Cursor

/-- The line endings of a text can be found without skipping over any character. -/
theorem lineEnds_cons (offset : Nat) (c : Char) (rest : List Char) :
    lineEnds offset (c :: rest) =
      if EndsLine c rest.head? then (offset + 1) :: lineEnds (offset + 1) rest
      else lineEnds (offset + 1) rest := by
  by_cases hfeed : c = '\n'
  · subst hfeed
    simp [lineEnds, EndsLine]
  · by_cases hreturn : c = '\r'
    · subst hreturn
      cases rest with
      | nil => simp [lineEnds, EndsLine]
      | cons d rest =>
        -- The line feed of a pair ends the line by itself, at the same offset as the pair.
        by_cases hd : d = '\n'
        · subst hd
          simp [lineEnds, EndsLine]
        · simp [lineEnds, EndsLine, hd]
    · simp [lineEnds, EndsLine, hfeed, hreturn]

/-- A reader whose line starts at `start` is, `n` characters on, in the line that starts at the last
line end up to there. -/
theorem Cursor.read_eq {cs : List Char} {offset start n : Nat} (line : Nat)
    (hstart : start ≤ offset) (hn : n ≤ cs.length) :
    ∃ i s, (start :: lineEnds offset cs)[i]? = some s ∧ s ≤ offset + n ∧
      (∀ e, (lineEnds offset cs)[i]? = some e → offset + n < e) ∧
      Cursor.read ⟨line, offset - start + 1⟩ cs n = ⟨line + i, offset + n - s + 1⟩ := by
  induction cs generalizing offset start line n with
  | nil =>
    obtain rfl : n = 0 := Nat.le_zero.mp hn
    exact ⟨0, start, rfl, hstart, by simp [lineEnds], rfl⟩
  | cons c rest ih =>
    cases n with
    | zero =>
      exact ⟨0, start, rfl, hstart, fun e he => lt_of_mem_lineEnds (List.mem_of_getElem? he), rfl⟩
    | succ n =>
      have hrest : n ≤ rest.length := Nat.le_of_succ_le_succ hn
      rw [lineEnds_cons, read, past]
      split
      · obtain ⟨i, s, hi, hs, hend, hread⟩ :=
          ih (line + 1) (Nat.le_refl (offset + 1)) hrest
        refine ⟨i + 1, s, hi, by omega, fun e he => ?_, ?_⟩
        · have := hend e he
          omega
        · rw [Nat.sub_self] at hread
          rw [hread]
          congr 1 <;> omega
      · obtain ⟨i, s, hi, hs, hend, hread⟩ :=
          ih line (Nat.le_add_right_of_le hstart) hrest
        refine ⟨i, s, hi, by omega, fun e he => ?_, ?_⟩
        · have := hend e he
          omega
        · rw [Nat.sub_add_comm hstart] at hread
          rw [hread]
          congr 1
          omega

namespace LineIndex
variable {text : String} {i : Nat}

theorem startAfter_ofText (hi : i ≤ (ofText text).ends.size) {s : Nat}
    (h : (0 :: lineEnds 0 text.toList)[i]? = some s) : (ofText text).startAfter i hi = s := by
  cases i with
  | zero => exact Option.some.inj h
  | succ i =>
    obtain ⟨hlt, hget⟩ := List.getElem?_eq_some_iff.mp h
    have hend : i < (lineEnds 0 text.toList).length := Nat.lt_of_succ_lt_succ hlt
    simpa [startAfter, ofText, List.getElem_append_left hend] using hget

theorem lt_ends_ofText (hi : i < (ofText text).ends.size) {offset : Nat}
    (ho : offset ≤ text.length) (h : ∀ e, (lineEnds 0 text.toList)[i]? = some e → offset < e) :
    offset < (ofText text).ends[i] := by
  by_cases hend : i < (lineEnds 0 text.toList).length
  · have := h _ (List.getElem?_eq_getElem hend)
    simpa [ofText, List.getElem_append_left hend] using this
  · simp only [ofText, List.getElem_toArray]
    rw [List.getElem_append_right (Nat.le_of_not_lt hend), List.getElem_singleton,
      String.length_toList]
    exact Nat.lt_succ_of_le ho

/-- Every offset of a text has the line and the column that are reached by reading the characters
before it one by one. -/
theorem toPoint_eq_read (text : String) {offset : Nat} (h : offset ≤ text.length) :
    (ofText text).toPoint (some offset) =
      some ⟨some (Cursor.origin.read text.toList offset).line,
        some (Cursor.origin.read text.toList offset).column, some offset⟩ := by
  have hlength : (ofText text).length = text.length := String.length_toList
  obtain ⟨i, s, hi, hs, hend, hread⟩ :=
    Cursor.read_eq 1 (Nat.le_refl 0) (hlength.symm ▸ h)
  simp only [Nat.zero_add] at hs hend hread
  have hsize : i < (ofText text).ends.size := by
    have hlt := (List.getElem?_eq_some_iff.mp hi).1
    simpa [ofText] using hlt
  have hstart := startAfter_ofText (Nat.le_of_lt hsize) hi
  have hlines : (ofText text).linesBefore offset = i :=
    (ofText_ascending text).linesBefore_eq hsize (hstart ▸ hs) (lt_ends_ofText hsize h hend)
  have horigin : Cursor.origin.read text.toList offset = ⟨1 + i, offset - s + 1⟩ := hread
  rw [toPoint_eq (hlength.symm ▸ h), pointAt]
  simp only [hlines, hstart, horigin]
  congr 2
  · exact congrArg some (by omega)
  · exact congrArg some (by omega)

/-- The offset is between the two characters of a pair, right after a line of its own. -/
theorem toPoint_eq_read_pair :
    let text := "a\r\r\n\n\rb"
    3 ≤ text.length ∧ Cursor.origin.read text.toList 3 = ⟨2, 2⟩ ∧
      (ofText text).toPoint (some 3) = some ⟨some 2, some 2, some 3⟩ := by
  intro text
  have hlength : 3 ≤ text.length := by decide
  have hread : Cursor.origin.read text.toList 3 = ⟨2, 2⟩ := by decide +kernel
  have hpoint := toPoint_eq_read text hlength
  rw [hread] at hpoint
  exact ⟨hlength, hread, hpoint⟩

end LineIndex

end MarkupTree

import MarkupTree.Position

namespace MarkupTree

/-- The offset after each line ending. A carriage return and a line feed in this order end one
line; either of them alone ends one too. -/
def lineEnds (offset : Nat) : List Char → List Nat
  | '\r' :: '\n' :: rest => (offset + 2) :: lineEnds (offset + 2) rest
  | '\r' :: rest => (offset + 1) :: lineEnds (offset + 1) rest
  | '\n' :: rest => (offset + 1) :: lineEnds (offset + 1) rest
  | _ :: rest => lineEnds (offset + 1) rest
  | [] => []

/-- In an ascending array, the number of entries up to `n`, which is sought between `lo` and
`hi`. -/
def countUpTo (xs : Array Nat) (n lo hi : Nat) (h : hi ≤ xs.size) : Nat :=
  if _ : lo < hi then
    if n < xs[(lo + hi) / 2] then countUpTo xs n lo ((lo + hi) / 2) (by omega)
    else countUpTo xs n ((lo + hi) / 2 + 1) hi h
  else lo
termination_by hi - lo

theorem countUpTo_le (xs : Array Nat) (n lo hi : Nat) (h : hi ≤ xs.size) (hle : lo ≤ hi) :
    countUpTo xs n lo hi h ≤ hi := by
  fun_induction countUpTo xs n lo hi h with
  | case1 lo hi h hlt hn ih => have := ih (by omega); omega
  | case2 lo hi h hlt hn ih => exact ih (by omega)
  | case3 lo hi h hlt => exact hle

/-- A read at a subscript of any sign, which fails outside of the array. The search and the lookups
are given once more with such reads. -/
def readAt? (xs : Array Nat) (i : Int) : Option Nat :=
  if _ : 0 ≤ i ∧ i < xs.size then some xs[i.toNat] else none

def readCount? (xs : Array Nat) (n lo hi : Nat) : Option Nat :=
  if lo < hi then
    match readAt? xs ((lo + hi) / 2 : Nat) with
    | none => none
    | some e =>
      if n < e then readCount? xs n lo ((lo + hi) / 2) else readCount? xs n ((lo + hi) / 2 + 1) hi
  else some lo
termination_by hi - lo

/-- The line ends of one text, with a last entry past the end of the text so that the last offset
lies on a line too. -/
structure LineIndex where
  length : Nat
  ends : Array Nat
  deriving DecidableEq, Repr

namespace LineIndex

def ofText (text : String) : LineIndex :=
  let chars := text.toList
  { length := chars.length, ends := (lineEnds 0 chars ++ [chars.length + 1]).toArray }

def linesBefore (index : LineIndex) (offset : Nat) : Nat :=
  countUpTo index.ends offset 0 index.ends.size (Nat.le_refl _)

theorem linesBefore_le (index : LineIndex) (offset : Nat) :
    index.linesBefore offset ≤ index.ends.size :=
  countUpTo_le _ _ _ _ _ (Nat.zero_le _)

def startAfter (index : LineIndex) (n : Nat) (h : n ≤ index.ends.size) : Nat :=
  if _ : 0 < n then index.ends[n - 1] else 0

def readStart? (index : LineIndex) (n : Int) : Option Nat :=
  if 0 < n then readAt? index.ends (n - 1) else some 0

def pointAt (index : LineIndex) (offset : Nat) : Point :=
  let before := index.linesBefore offset
  let start := index.startAfter before (index.linesBefore_le offset)
  ⟨some (before + 1), some (offset - start + 1), some offset⟩

/-- The point of an offset of the text, its end included. -/
def toPoint (index : LineIndex) : Option Int → Option Point
  | some offset =>
    if 0 ≤ offset ∧ offset ≤ index.length then some (index.pointAt offset.toNat) else none
  | none => none

def readPoint? (index : LineIndex) : Option Int → Option (Option Point)
  | none => some none
  | some offset =>
    if offset < 0 ∨ index.length < offset then some none
    else do
      let before ← readCount? index.ends offset.toNat 0 index.ends.size
      let start ← index.readStart? before
      return some ⟨some (before + 1), some (offset - start + 1), some offset⟩

/-- The offset of a place of the text. The column has to lie on its own line. -/
def toOffset (index : LineIndex) (p : Point) : Option Int :=
  match p.line, p.column with
  | some line, some column =>
    if h : 1 ≤ line ∧ 1 ≤ column ∧ line ≤ index.ends.size then
      let offset := index.startAfter (line.toNat - 1) (by omega) + column - 1
      if offset < index.ends[line.toNat - 1] then some offset else none
    else none
  | _, _ => none

def readOffset? (index : LineIndex) (p : Point) : Option (Option Int) :=
  match p.line, p.column with
  | some line, some column =>
    if line < 1 ∨ column < 1 ∨ index.ends.size < line then some none
    else do
      let start ← index.readStart? (line - 1)
      let stop ← readAt? index.ends (line - 1)
      let offset := start + column - 1
      return if stop ≤ offset then none else some offset
  | _, _ => some none

end LineIndex

end MarkupTree

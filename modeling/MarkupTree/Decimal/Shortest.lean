import MarkupTree.Decimal.Binary64

namespace MarkupTree.Decimal

/-- The reals that round to a double: its value and both ends of the interval, over one
denominator. The ends belong to it when the significand is even. -/
structure Interval where
  low : Nat
  value : Nat
  high : Nat
  den : Nat
  closed : Bool

/-- The interval of `m * 2 ^ e`, for positive `m`. Below a power of two the doubles lie twice as
dense, so the lower end is nearer there. -/
def Interval.of (m : Nat) (e : Int) : Interval :=
  let below := if m = Nat.pow 2 52 ∧ -1074 < e then 1 else 2
  let (unit, den) := scaleTwo 1 1 (e - 2)
  { low := (4 * m - below) * unit, value := 4 * m * unit, high := (4 * m + 2) * unit,
    den := den, closed := m % 2 == 0 }

def Interval.has (i : Interval) (n : Nat) (k : Int) : Bool :=
  let (a, b) := scaleTen n 1 k
  let a := a * i.den
  if i.closed then i.low * b ≤ a && a ≤ i.high * b else i.low * b < a && a < i.high * b

def decimalWidth (n : Nat) : Nat := (Nat.toDigits 10 n).length

def floorLogTen (num den : Nat) : Int :=
  if den ≤ num then (decimalWidth (num / den) : Int) - 1
  else
    let width := decimalWidth (den / num)
    if den ≤ num * Nat.pow 10 (width - 1) then 1 - (width : Int) else -(width : Int)

/-- Of the two neighbours of the value on the grid of `10 ^ k`, those in the interval, and of two
the nearer one; a tie goes to the even one. -/
def Interval.pick (i : Interval) (k : Int) : Option Nat :=
  let (num, den) := scaleTen i.value i.den (-k)
  let down := num / den
  let nearest := roundQuotient num den
  let other := if nearest = down then down + 1 else down
  if i.has nearest k then some nearest
  else if i.has other k then some other
  else none

/-- The first grid, from one digit on, with a point in the interval. Seventeen digits always
suffice. -/
def Interval.search (i : Interval) (top : Int) : (left : Nat) → Nat × Int
  | 0 =>
    let (num, den) := scaleTen i.value i.den (16 - top)
    (roundQuotient num den, top - 16)
  | left + 1 =>
    let k := top + left - 15
    match i.pick k with
    | some n => (n, k)
    | none => i.search top left

def dropZeros (n : Nat) (k : Int) : Nat × Int :=
  if n % 10 = 0 ∧ n ≠ 0 then dropZeros (n / 10) (k + 1) else (n, k)
termination_by n
decreasing_by omega

/-- The fewest decimal digits that read back as `m * 2 ^ e`, for positive `m`, and the exponent of
ten of the last digit. -/
def shortest (m : Nat) (e : Int) : Nat × Int :=
  let i := Interval.of m e
  let (n, k) := i.search (floorLogTen i.value i.den) 16
  dropZeros n k

end MarkupTree.Decimal

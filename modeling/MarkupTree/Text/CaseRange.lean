namespace MarkupTree.Text

/-- Every `step`-th code point from `first` to `last`, where `first` maps to `target` and the
distances are kept. -/
structure CaseRange where
  first : Nat
  last : Nat
  step : Nat
  target : Nat

def CaseRange.contains (r : CaseRange) (n : Nat) : Bool :=
  Nat.ble r.first n && Nat.ble n r.last && (n - r.first) % r.step == 0

/-- The image of a character under the first range that has it; any other character stays. -/
def mapCase (table : List CaseRange) (c : Char) : Char :=
  match table.find? (·.contains c.toNat) with
  | some r => Char.ofNat (r.target + (c.toNat - r.first))
  | none => c

def inRanges (ranges : List (Nat × Nat)) (c : Char) : Bool :=
  ranges.any fun r => Nat.ble r.1 c.toNat && Nat.ble c.toNat r.2

end MarkupTree.Text

import MarkupTree.Position

namespace MarkupTree

namespace Point

/-- Both the line and the column are there, and neither is zero. -/
def Known (p : Point) : Prop :=
  (∃ line, p.line = some line ∧ line ≠ 0) ∧ ∃ column, p.column = some column ∧ column ≠ 0

theorem isKnown_iff (n : Option Int) : isKnown n ↔ ∃ k, n = some k ∧ k ≠ 0 := by
  cases n with
  | none => simp [isKnown]
  | some k => simp [isKnown]

theorem known_iff (p : Point) : (isKnown p.line && isKnown p.column) ↔ p.Known := by
  rw [Bool.and_eq_true, isKnown_iff, isKnown_iff]
  exact Iff.rfl

instance (p : Point) : Decidable p.Known := decidable_of_iff _ p.known_iff

theorem known?_of_known {p : Point} (h : p.Known) : p.known? = some p := by
  rw [known?, if_pos (p.known_iff.mpr h)]

theorem known?_of_not_known {p : Point} (h : ¬p.Known) : p.known? = none := by
  rw [known?, if_neg (mt p.known_iff.mp h)]

theorem known?_eq_some_iff {p q : Point} : p.known? = some q ↔ p.Known ∧ p = q := by
  by_cases hp : p.Known
  · simp [known?_of_known hp, hp]
  · simp [known?_of_not_known hp, hp]

theorem known?_isSome_iff (p : Point) : p.known?.isSome ↔ p.Known := by
  by_cases h : p.Known
  · simp [known?_of_known h, h]
  · simp [known?_of_not_known h, h]

end Point

/-- At least one end is there, and each end that is there is known. -/
structure Position.WellFormed (p : Position) : Prop where
  nonempty : p.start.isSome ∨ p.finish.isSome
  start : ∀ q, p.start = some q → q.Known
  finish : ∀ q, p.finish = some q → q.Known

structure Position.EndsSatisfy (Good : Point → Prop) (p : Position) : Prop where
  nonempty : p.start.isSome ∨ p.finish.isSome
  start : ∀ q, p.start = some q → Good q
  finish : ∀ q, p.finish = some q → Good q

theorem Position.wellFormed_iff (p : Position) : p.WellFormed ↔ p.EndsSatisfy Point.Known :=
  ⟨fun h => ⟨h.nonempty, h.start, h.finish⟩, fun h => ⟨h.nonempty, h.start, h.finish⟩⟩

def Span.ends (s : Span) : List Point := [s.start, s.finish]

namespace Span
variable {s : Span} {p : Position}

/-- A span has a position if one of its ends is known, and the position has the known ends. -/
theorem position?_eq_some_iff :
    s.position? = some p ↔
      (s.start.Known ∨ s.finish.Known) ∧ p = ⟨s.start.known?, s.finish.known?⟩ := by
  unfold position?
  by_cases hstart : s.start.Known
  · simp [Point.known?_of_known hstart, hstart, eq_comm]
  · by_cases hfinish : s.finish.Known
    · simp [Point.known?_of_known hfinish, Point.known?_of_not_known hstart, hfinish, eq_comm]
    · simp [Point.known?_of_not_known hfinish, Point.known?_of_not_known hstart, hstart, hfinish]

theorem position?_isSome_iff : s.position?.isSome ↔ s.start.Known ∨ s.finish.Known := by
  rw [Option.isSome_iff_exists]
  simp only [position?_eq_some_iff]
  exact ⟨fun ⟨_, h, _⟩ => h, fun h => ⟨_, h, rfl⟩⟩

theorem finish_position? (s : Span) : s.position?.bind Position.finish = s.finish.known? := by
  unfold position?
  cases s.start.known? <;> cases s.finish.known? <;> rfl

theorem endsSatisfy_of_position? {Good : Point → Prop} (hs : ∀ q ∈ s.ends, q.Known → Good q)
    (h : s.position? = some p) : p.EndsSatisfy Good := by
  obtain ⟨hends, rfl⟩ := position?_eq_some_iff.mp h
  refine ⟨?_, fun q hq => ?_, fun q hq => ?_⟩
  · rcases hends with hend | hend
    · exact .inl (by simp [Point.known?_of_known hend])
    · exact .inr (by simp [Point.known?_of_known hend])
  · obtain ⟨hknown, rfl⟩ := Point.known?_eq_some_iff.mp hq
    exact hs _ (by simp [ends]) hknown
  · obtain ⟨hknown, rfl⟩ := Point.known?_eq_some_iff.mp hq
    exact hs _ (by simp [ends]) hknown

end Span

def TagPositions.all (t : TagPositions) : List Position :=
  t.opening.toList ++ t.closing.toList ++ t.properties.filterMap Prod.snd

end MarkupTree

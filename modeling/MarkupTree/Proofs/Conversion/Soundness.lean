import MarkupTree.Proofs.Conversion.Positions
import MarkupTree.Proofs.LineIndex.Inverse

namespace MarkupTree

def Position.points (p : Position) : List Point := p.start.toList ++ p.finish.toList

def Node.points (node : Node) : List Point :=
  node.preorder.flatMap fun n => n.places.flatMap Position.points

theorem Position.EndsSatisfy.points {Good : Point → Prop} {p : Position} (h : p.EndsSatisfy Good) :
    ∀ q ∈ p.points, Good q := by
  intro q hq
  rcases List.mem_append.mp hq with hq | hq
  · exact h.start q (Option.mem_toList.mp hq)
  · exact h.finish q (Option.mem_toList.mp hq)

def Point.Marks (text : String) (q : Point) : Prop :=
  ∃ o, (LineIndex.ofText text).toPoint (some o) = some q

theorem Point.marks_iff {text : String} {q : Point} :
    q.Marks text ↔ (LineIndex.ofText text).toPoint q.offset = some q := by
  constructor
  · rintro ⟨o, ho⟩
    rw [((LineIndex.ofText_ascending text).toOffset_of_toPoint ho).1, ho]
  · intro h
    cases hoffset : q.offset with
    | none => simp [hoffset, LineIndex.toPoint] at h
    | some o => exact ⟨o, hoffset ▸ h⟩

instance (text : String) (q : Point) : Decidable (q.Marks text) :=
  decidable_of_iff _ Point.marks_iff.symm

/-- Every known end that a node which is entered reports, for itself or for its tags and
attributes, is the point of an offset of the text. -/
def Source.Node.ConsistentWith (text : String) (tree : Source.Node) : Prop :=
  ∀ n ∈ tree.visited, ∀ l ∈ n.location, l.EndsSatisfy (Point.Marks text)

/-- Where a parse tree is consistent with the text of the file, each point in the converted tree is
the one that the text has at its offset, and its line and column lead back to this offset. -/
theorem convert_points_sound {run run' : Run} {options : Options File} {file : File}
    {tree : Source.Node} {node : Node} (h : run.convert options tree = (.ok node, run'))
    (hfile : options.file = some file) (htree : tree.ConsistentWith file.text) :
    ∀ q ∈ node.points, (LineIndex.ofText file.text).toPoint q.offset = some q ∧
      (LineIndex.ofText file.text).toOffset q = q.offset := by
  have hindex := LineIndex.ofText_ascending file.text
  have hends : node.AllPlaces (·.EndsSatisfy (Point.Marks file.text)) := by
    refine Run.convert_allPlaces h (fun text htext => ?_) htree
    obtain rfl : file.text = text := by simpa [hfile] using htext
    exact LineIndex.whole_endsSatisfy ⟨_, LineIndex.toPoint_eq (Nat.zero_le _)⟩
      ⟨_, LineIndex.toPoint_eq (Nat.le_refl _)⟩
  intro q hq
  obtain ⟨n, hn, hq⟩ := List.mem_flatMap.mp hq
  obtain ⟨p, hp, hq⟩ := List.mem_flatMap.mp hq
  obtain ⟨o, ho⟩ := (hends n hn p hp).points q hq
  obtain ⟨hoffset, hback⟩ := hindex.toOffset_of_toPoint ho
  rw [hoffset]
  exact ⟨ho, hback⟩

/-- A document without a location of its own. Its paragraph is not closed and does not say where it
ends, and its template has content between tags that are reported. -/
def letter : Source.Node :=
  .bare "document" none none
    [(Source.Node.bare "element" none "p"
        [(Source.Node.bare "text" "a\n" none [] none).atLocation
          ⟨⟨⟨some 1, some 4, some 3⟩, ⟨some 2, some 1, some 5⟩⟩, none, none, []⟩] none).atLocation
        ⟨⟨⟨some 1, some 1, some 0⟩, ⟨some 0, none, some 99⟩⟩,
          some ⟨⟨some 1, some 1, some 0⟩, ⟨some 1, some 4, some 3⟩⟩, none, []⟩,
      (Source.Node.bare "element" none "template" []
        (some (.bare "fragment" none none [] none))).atLocation
        ⟨⟨⟨some 2, some 1, some 5⟩, ⟨some 2, some 22, some 26⟩⟩,
          some ⟨⟨some 2, some 1, some 5⟩, ⟨some 2, some 11, some 15⟩⟩,
          some ⟨⟨some 2, some 11, some 15⟩, ⟨some 2, some 22, some 26⟩⟩, []⟩] none

def mailed : Options File :=
  ⟨.string "html", some (.ofText "<p>a\n<template></template>" none), .bool true⟩

def convertedLetter : Node :=
  .root (some (LineIndex.ofText "<p>a\n<template></template>").whole) false
    [.element (some ⟨some ⟨some 1, some 1, some 0⟩, some ⟨some 2, some 1, some 5⟩⟩)
        ⟨.string "p", [], some
          ⟨some ⟨some ⟨some 1, some 1, some 0⟩, some ⟨some 1, some 4, some 3⟩⟩, none, []⟩⟩
        [.literal (some ⟨some ⟨some 1, some 4, some 3⟩, some ⟨some 2, some 1, some 5⟩⟩) .text
          (.string "a\n")] none,
      .element (some ⟨some ⟨some 2, some 1, some 5⟩, some ⟨some 2, some 22, some 26⟩⟩)
        ⟨.string "template", [], some
          ⟨some ⟨some ⟨some 2, some 1, some 5⟩, some ⟨some 2, some 11, some 15⟩⟩,
            some ⟨some ⟨some 2, some 11, some 15⟩, some ⟨some 2, some 22, some 26⟩⟩, []⟩⟩ []
        (some (.root (some ⟨some ⟨some 2, some 11, some 15⟩, some ⟨some 2, some 11, some 15⟩⟩)
          false []))]

theorem convert_letter :
    ∃ run', (Run.fresh mailed false).convert mailed letter = (.ok convertedLetter, run') := by
  refine ⟨⟨true, some (LineIndex.ofText "<p>a\n<template></template>"), [], none⟩, ?_⟩
  rw [Run.convert_eq_convertNode]
  rfl

theorem consistentWith_letter : letter.ConsistentWith "<p>a\n<template></template>" := by
  unfold Source.Node.ConsistentWith Source.Location.EndsSatisfy
  decide +kernel

theorem convert_points_sound_letter :
    (∃ run', (Run.fresh mailed false).convert mailed letter = (.ok convertedLetter, run')) ∧
      letter.ConsistentWith "<p>a\n<template></template>" ∧
      ∀ q ∈ convertedLetter.points,
        (LineIndex.ofText "<p>a\n<template></template>").toPoint q.offset = some q ∧
          (LineIndex.ofText "<p>a\n<template></template>").toOffset q = q.offset := by
  obtain ⟨run', h⟩ := convert_letter
  have hfile : mailed.file = some (.ofText "<p>a\n<template></template>" none) := rfl
  have hsound := convert_points_sound h hfile consistentWith_letter
  exact ⟨⟨run', h⟩, consistentWith_letter, hsound⟩

end MarkupTree

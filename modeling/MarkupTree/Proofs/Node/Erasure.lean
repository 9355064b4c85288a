import Mathlib.Data.List.Basic
import MarkupTree.Placement
import MarkupTree.Proofs.Node.Preorder
import MarkupTree.Summary

namespace MarkupTree.Node

mutual

/-- The tree without the positions of its tags, and without those of its nodes unless they are
kept. -/
def strip (keep : Bool) : Node → Node
  | root p quirksMode children =>
    root (if keep then p else none) quirksMode (stripAll keep children)
  | element p tag children none =>
    element (if keep then p else none) { tag with positions := none } (stripAll keep children) none
  | element p tag children (some content) =>
    element (if keep then p else none) { tag with positions := none } (stripAll keep children)
      (some (strip keep content))
  | literal p kind value => literal (if keep then p else none) kind value
  | doctype p => doctype (if keep then p else none)

def stripAll (keep : Bool) : List Node → List Node
  | [] => []
  | node :: rest => strip keep node :: stripAll keep rest

end

def withoutPositions (node : Node) : Node := node.strip false

def withoutTagPositions (node : Node) : Node := node.strip true

section
variable (keep : Bool) (p : Option Position)

theorem stripAll_eq (nodes : List Node) : stripAll keep nodes = nodes.map (strip keep) := by
  induction nodes with
  | nil => rfl
  | cons node rest ih => rw [stripAll, ih, List.map_cons]

@[simp] theorem strip_root (quirksMode : Bool) (children : List Node) :
    (root p quirksMode children).strip keep =
      root (if keep then p else none) quirksMode (children.map (strip keep)) := by
  rw [strip, stripAll_eq]

@[simp] theorem strip_element (tag : Tag) (children : List Node) (content : Option Node) :
    (element p tag children content).strip keep =
      element (if keep then p else none) { tag with positions := none }
        (children.map (strip keep)) (content.map (strip keep)) := by
  cases content <;> simp only [strip, stripAll_eq, Option.map]

@[simp] theorem strip_literal (kind : LiteralKind) (value : Value) :
    (literal p kind value).strip keep = literal (if keep then p else none) kind value := by
  rw [strip]

@[simp] theorem strip_doctype : (doctype p).strip keep = doctype (if keep then p else none) := by
  rw [strip]

variable (node : Node)

@[simp] theorem position_strip :
    (node.strip keep).position = if keep then node.position else none := by
  cases node <;> simp [position]

theorem strip_atPlaces (positions : Option TagPositions) :
    (node.atPlaces p positions).strip keep =
      (node.strip keep).withPosition (if keep then p else none) := by
  cases node <;> simp [atPlaces, withPosition]

theorem strip_withPosition :
    (node.withPosition p).strip keep =
      (node.strip keep).withPosition (if keep then p else none) := by
  rw [withPosition_eq, strip_atPlaces]

theorem parts_strip : (node.strip keep).parts = node.parts.map (strip keep) := by
  cases node with
  | element _ _ _ content => cases content <;> simp
  | root _ _ _ => simp
  | _ => simp [parts, children, children?, content?]

theorem preorder_strip : (node.strip keep).preorder = node.preorder.map (strip keep) := by
  induction node using parts_induction with
  | parts node ih =>
    rw [preorder_eq, preorder_eq node, parts_strip, List.map_cons, List.map_flatMap,
      List.flatMap_map]
    exact congrArg _ (List.flatMap_congr ih)

/-- Only positions are gone: a stripped node shows itself as before. -/
theorem summary_strip : (node.strip keep).summary = node.summary := by
  cases node with
  | literal p kind value =>
    rw [strip_literal]
    simp only [summary, summary?]
    cases value.excerpt? <;> rfl
  | _ => simp [summary, summary?]

end

theorem strip_false_unplaced {node n : Node} (h : n ∈ (node.strip false).preorder) :
    n.position = none ∧ n.tag?.bind Tag.positions = none := by
  rw [preorder_strip] at h
  obtain ⟨m, -, rfl⟩ := List.mem_map.mp h
  refine ⟨by simp, ?_⟩
  cases m <;> simp [tag?]

theorem lastEnd?_strip_true (children : List Node) :
    lastEnd? (children.map (strip true)) = lastEnd? children := by
  rw [lastEnd?, lastEnd?, List.getLast?_map]
  cases children.getLast? <;> simp

/-- Ends are repaired by the positions of nodes, which are all kept. -/
theorem repairEnd_strip_true (endTag : Option Span) (children : List Node) :
    repairEnd endTag (children.map (strip true)) = repairEnd endTag children := by
  funext p
  simp only [repairEnd, lastEnd?_strip_true]

end MarkupTree.Node

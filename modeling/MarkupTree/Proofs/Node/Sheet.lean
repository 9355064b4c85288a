import Mathlib.Data.List.Perm.Basic
import MarkupTree.Node.Worklist
import MarkupTree.Proofs.Node.Preorder
import MarkupTree.Proofs.Node.Record

namespace MarkupTree

namespace Cell

def links (cell : Cell) : List Nat := cell.children.getD [] ++ cell.content.toList

theorem links_ofNode (node : Node) : (ofNode node).links = [] := rfl

theorem fields_link (node : Node) (first : Nat) (cell : Cell) :
    (link node first cell).fields = cell.fields := rfl

theorem links_link (node : Node) (first : Nat) (cell : Cell) :
    (link node first cell).links = List.range' first node.parts.length := by
  have hchildren : (node.children?.map fun nodes => List.range' first nodes.length).getD [] =
      List.range' first node.children.length := by
    rw [Node.children]
    cases node.children? <;> rfl
  rw [links, link, Node.parts, List.length_append, ← List.range'_append_1]
  dsimp only
  rw [hchildren]
  cases node.content? <;> rfl

/-- What a cell says depends on what is found at its links, and nowhere else. -/
theorem value_congr {cell : Cell} {f g : Nat → Value}
    (h : ∀ place ∈ cell.links, f place = g place) : cell.value f = cell.value g := by
  obtain ⟨fields, children, content⟩ := cell
  have hchildren : ∀ places, children = some places → places.map f = places.map g := by
    rintro places rfl
    exact List.map_congr_left fun place hplace => h place (List.mem_append_left _ hplace)
  have hcontent : ∀ place, content = some place → f place = g place := by
    rintro place rfl
    exact h place (List.mem_append_right _ (List.mem_singleton.mpr rfl))
  simp only [value]
  congr 2
  · cases children with
    | none => rfl
    | some places => simp only [Option.map_some, hchildren places rfl]
  · cases content with
    | none => rfl
    | some place => simp only [Option.map_some, hcontent place rfl]

end Cell

namespace Node

/-- The sheet after one node of the worklist: cells for its parts come at the end, and its own cell
is linked to them. -/
def spread (node : Node) (place : Nat) (sheet : Array Cell) : Array Cell :=
  (sheet ++ (node.parts.map Cell.ofNode).toArray).modify place (Cell.link node sheet.size)

theorem fillSheet_cons (node : Node) (place : Nat) (work : List (Node × Nat)) (sheet : Array Cell) :
    fillSheet ((node, place) :: work) sheet =
      fillSheet ((node.parts.zipIdx sheet.size).reverse ++ work) (spread node place sheet) := by
  rw [fillSheet, spread]

section
variable {node : Node} {place : Nat} {sheet : Array Cell}

theorem size_spread : (spread node place sheet).size = sheet.size + node.parts.length := by
  simp [spread]

theorem getElem?_spread_self (h : sheet[place]? = some (.ofNode node)) :
    (spread node place sheet)[place]? = some ((Cell.ofNode node).link node sheet.size) := by
  have hplace : place < sheet.size := (Array.getElem?_eq_some_iff.mp h).1
  rw [spread, Array.getElem?_modify, if_pos rfl, Array.getElem?_append_left hplace, h]
  rfl

theorem getElem?_spread_of_ne {i : Nat} (hi : i < sheet.size) (hne : place ≠ i) :
    (spread node place sheet)[i]? = sheet[i]? := by
  rw [spread, Array.getElem?_modify, if_neg hne, Array.getElem?_append_left hi]

theorem getElem?_spread_part (hplace : place < sheet.size) {p : Node × Nat}
    (hp : p ∈ node.parts.zipIdx sheet.size) :
    (spread node place sheet)[p.2]? = some (.ofNode p.1) := by
  obtain ⟨part, i⟩ := p
  obtain ⟨hle, hlt, hpart⟩ := List.mem_zipIdx hp
  have hne : place ≠ i := Nat.ne_of_lt (Nat.lt_of_lt_of_le hplace hle)
  have hrange : i - sheet.size < node.parts.length := by omega
  rw [spread, Array.getElem?_modify, if_neg hne, Array.getElem?_append_right hle,
    List.getElem?_toArray, List.getElem?_map, List.getElem?_eq_getElem hrange, ← hpart]
  rfl

/-- One cell is linked, and nothing else changes but that the new cells come last. -/
theorem toList_spread (h : sheet[place]? = some (.ofNode node)) :
    ∃ before after,
      sheet.toList ++ node.parts.map .ofNode = before ++ .ofNode node :: after ∧
      (spread node place sheet).toList =
        before ++ (Cell.ofNode node).link node sheet.size :: after := by
  have hplace : place < sheet.size := (Array.getElem?_eq_some_iff.mp h).1
  have hrange : place < (sheet.toList ++ node.parts.map Cell.ofNode).length := by
    rw [List.length_append]
    exact Nat.lt_add_right _ hplace
  obtain ⟨before, cell, after, hsplit, hlength, hmodify⟩ :=
    List.exists_of_modify (Cell.link node sheet.size) hrange
  have hcell : cell = .ofNode node := by
    have hget := congrArg (·[place]?) hsplit
    rw [List.getElem?_append_left hplace, Array.getElem?_toList, h, ← hlength,
      List.getElem?_append_right (Nat.le_refl _), Nat.sub_self] at hget
    exact (Option.some.inj hget).symm
  subst hcell
  refine ⟨before, after, hsplit, ?_⟩
  rw [spread, Array.toList_modify, Array.toList_append]
  exact hmodify

theorem fields_spread (h : sheet[place]? = some (.ofNode node)) :
    (spread node place sheet).toList.map Cell.fields =
      sheet.toList.map Cell.fields ++ node.parts.map fields := by
  obtain ⟨before, after, hsplit, hspread⟩ := toList_spread h
  have hfields := congrArg (List.map Cell.fields) hsplit
  rw [List.map_append, List.map_append, List.map_cons, List.map_map] at hfields
  rw [hspread, List.map_append, List.map_cons, Cell.fields_link, ← hfields]
  rfl

theorem links_spread (h : sheet[place]? = some (.ofNode node)) :
    ((spread node place sheet).toList.flatMap Cell.links).Perm
      (sheet.toList.flatMap Cell.links ++ List.range' sheet.size node.parts.length) := by
  obtain ⟨before, after, hsplit, hspread⟩ := toList_spread h
  have hlinks := congrArg (List.flatMap Cell.links) hsplit
  have hnew : (node.parts.map Cell.ofNode).flatMap Cell.links = [] := by
    simp [List.flatMap_map, Cell.links_ofNode]
  rw [List.flatMap_append, hnew, List.append_nil, List.flatMap_append, List.flatMap_cons,
    Cell.links_ofNode, List.nil_append] at hlinks
  rw [hspread, List.flatMap_append, List.flatMap_cons, Cell.links_link, hlinks, List.append_assoc]
  exact List.perm_append_comm.append_left _

end

/-- The cells of a worklist stand apart from each other, and none of them is linked yet. -/
structure Ready (work : List (Node × Nat)) (sheet : Array Cell) : Prop where
  cells : ∀ p ∈ work, sheet[p.2]? = some (.ofNode p.1)
  nodup : (work.map Prod.snd).Nodup

namespace Ready
variable {node : Node} {place : Nat} {work : List (Node × Nat)} {sheet : Array Cell}

theorem lt_size (h : Ready work sheet) {p : Node × Nat} (hp : p ∈ work) : p.2 < sheet.size :=
  (Array.getElem?_eq_some_iff.mp (h.cells p hp)).1

theorem start (node : Node) : Ready [(node, 0)] #[.ofNode node] := by
  refine ⟨fun p hp => ?_, by simp⟩
  rw [List.mem_singleton.mp hp]
  rfl

theorem notMem (h : Ready ((node, place) :: work) sheet) {p : Node × Nat} (hp : p ∈ work) :
    place ≠ p.2 := by
  rintro rfl
  exact (List.nodup_cons.mp h.nodup).1 (List.mem_map.mpr ⟨p, hp, rfl⟩)

theorem spread (h : Ready ((node, place) :: work) sheet) :
    Ready ((node.parts.zipIdx sheet.size).reverse ++ work) (spread node place sheet) := by
  have hplace : place < sheet.size := h.lt_size List.mem_cons_self
  have hold : ∀ p ∈ work, p.2 < sheet.size := fun p hp => h.lt_size (List.mem_cons_of_mem _ hp)
  constructor
  · intro p hp
    rcases List.mem_append.mp hp with hp | hp
    · exact getElem?_spread_part hplace (List.mem_reverse.mp hp)
    · rw [getElem?_spread_of_ne (hold p hp) (h.notMem hp)]
      exact h.cells p (List.mem_cons_of_mem _ hp)
  · rw [List.map_append, List.map_reverse, List.zipIdx_map_snd, List.nodup_append]
    have hnew : (List.range' sheet.size node.parts.length).reverse.Nodup :=
      (List.reverse_perm _).nodup_iff.mpr List.nodup_range'
    refine ⟨hnew, (List.nodup_cons.mp h.nodup).2, ?_⟩
    rintro i hi _ hj rfl
    obtain ⟨p, hp, rfl⟩ := List.mem_map.mp hj
    -- The places of the parts are behind all that were given before.
    have hle := (List.mem_range'_1.mp (List.mem_reverse.mp hi)).1
    exact absurd (hold p hp) (Nat.not_lt.mpr hle)

/-- Induction along a worklist, from the node that is taken next to what it leaves. -/
@[elab_as_elim]
theorem induction {motive : ∀ work sheet, Ready work sheet → Prop}
    (done : ∀ sheet h, motive [] sheet h)
    (next : ∀ node place work sheet (h : Ready ((node, place) :: work) sheet),
      motive _ _ h.spread → motive _ _ h)
    (h : Ready work sheet) : motive work sheet h := by
  induction work, sheet using fillSheet.induct with
  | case1 sheet => exact done sheet h
  | case2 sheet node place work first grown ih => exact next _ _ _ _ h (ih h.spread)

end Ready

section
variable {work : List (Node × Nat)} {sheet : Array Cell}

/-- A cell that is not on the worklist is finished. -/
theorem getElem?_fillSheet (h : Ready work sheet) {i : Nat} (hi : i < sheet.size)
    (hdone : ∀ p ∈ work, p.2 ≠ i) : (fillSheet work sheet)[i]? = sheet[i]? := by
  induction h using Ready.induction with
  | done sheet h => rw [fillSheet]
  | next node place work sheet h ih =>
    have hne : place ≠ i := hdone _ List.mem_cons_self
    have hsize : i < (spread node place sheet).size := by
      rw [size_spread]
      exact Nat.lt_add_right _ hi
    have hnew : ∀ p ∈ (node.parts.zipIdx sheet.size).reverse ++ work, p.2 ≠ i := by
      intro p hp
      rcases List.mem_append.mp hp with hp | hp
      · have := List.le_snd_of_mem_zipIdx (List.mem_reverse.mp hp)
        omega
      · exact hdone p (List.mem_cons_of_mem _ hp)
    rw [fillSheet_cons, ih hsize hnew, getElem?_spread_of_ne hi hne]

/-- The sheet has the tree of a node at a place: the cell of the node, linked to cells behind it
that the trees of its parts have. -/
inductive Holds (sheet : Array Cell) : Node → Nat → Prop
  | intro {node : Node} {place first : Nat} (hlt : place < first)
      (hcell : sheet[place]? = some ((Cell.ofNode node).link node first))
      (hparts : ∀ p ∈ node.parts.zipIdx first, Holds sheet p.1 p.2) : Holds sheet node place

theorem fillSheet_holds (h : Ready work sheet) :
    ∀ p ∈ work, Holds (fillSheet work sheet) p.1 p.2 := by
  induction h using Ready.induction with
  | done sheet h =>
    intro p hp
    cases hp
  | next node place work sheet h ih =>
    have hplace : place < sheet.size := h.lt_size List.mem_cons_self
    intro p hp
    rw [fillSheet_cons]
    rcases List.mem_cons.mp hp with rfl | hp
    · refine .intro hplace ?_ fun p hp => ih p (List.mem_append_left _ (List.mem_reverse.mpr hp))
      rw [getElem?_fillSheet h.spread, getElem?_spread_self (h.cells _ List.mem_cons_self)]
      · rw [size_spread]
        exact Nat.lt_add_right _ hplace
      · intro p hp
        rcases List.mem_append.mp hp with hp | hp
        · have := List.le_snd_of_mem_zipIdx (List.mem_reverse.mp hp)
          omega
        · exact (h.notMem hp).symm
    · exact ih p (List.mem_append_right _ hp)

/-- Next come the parts of a node, and then all that is below them. -/
theorem parts_append_below (node : Node) :
    (node.parts ++ node.parts.flatMap fun part => part.parts.flatMap preorder).Perm
      (node.parts.flatMap preorder) := by
  have hcons := List.map_append_flatMap_perm node.parts id fun part => part.parts.flatMap preorder
  rw [List.map_id] at hcons
  exact hcons.trans (.of_eq (List.flatMap_congr fun part _ => (preorder_eq part).symm))

theorem fields_fillSheet (h : Ready work sheet) :
    ((fillSheet work sheet).toList.map Cell.fields).Perm
      (sheet.toList.map Cell.fields ++
        ((work.map Prod.fst).flatMap fun node => node.parts.flatMap preorder).map fields) := by
  induction h using Ready.induction with
  | done sheet h =>
    rw [fillSheet, List.map_nil, List.flatMap_nil, List.map_nil, List.append_nil]
  | next node place work sheet h ih =>
    have hnodes : ((node.parts.zipIdx sheet.size).reverse ++ work).map Prod.fst =
        node.parts.reverse ++ work.map Prod.fst := by
      rw [List.map_append, List.map_reverse, List.zipIdx_map_fst]
    rw [hnodes, fields_spread (h.cells _ List.mem_cons_self), List.append_assoc,
      ← List.map_append, List.flatMap_append, ← List.append_assoc] at ih
    rw [fillSheet_cons]
    refine ih.trans (List.Perm.append_left _ (List.Perm.map _ (List.Perm.append_right _ ?_)))
    exact (((List.reverse_perm _).flatMap_right _).append_left _).trans (parts_append_below node)

def Linked (sheet : Array Cell) : Prop :=
  (sheet.toList.flatMap Cell.links).Perm (List.range' 1 (sheet.size - 1))

theorem Linked.spread {node : Node} {place : Nat} (h : Linked sheet)
    (hcell : sheet[place]? = some (.ofNode node)) : Linked (spread node place sheet) := by
  have hplace : place < sheet.size := (Array.getElem?_eq_some_iff.mp hcell).1
  obtain ⟨last, hlast⟩ : ∃ last, sheet.size = 1 + last := ⟨sheet.size - 1, by omega⟩
  rw [Linked, size_spread, hlast, Nat.add_assoc, Nat.add_sub_cancel_left, ← List.range'_append_1]
  rw [Linked, hlast, Nat.add_sub_cancel_left] at h
  refine (links_spread hcell).trans ?_
  rw [hlast]
  exact h.append_right _

theorem linked_fillSheet (h : Ready work sheet) (hlinked : Linked sheet) :
    Linked (fillSheet work sheet) := by
  induction h using Ready.induction with
  | done sheet h => rwa [fillSheet]
  | next node place work sheet h ih =>
    rw [fillSheet_cons]
    exact ih (hlinked.spread (h.cells _ List.mem_cons_self))

end

section
variable {size : Nat}

def pushValue (size : Nat) (cell : Cell) (later : Array Value) : Array Value :=
  later.push (cell.value fun place => later[size - 1 - place]?.getD .null)

theorem sheetValues_eq (sheet : Array Cell) :
    sheetValues sheet = sheet.toList.foldr (pushValue sheet.size) #[] :=
  (Array.foldr_toList _).symm

theorem size_pushValues (cells : List Cell) :
    (cells.foldr (pushValue size) #[]).size = cells.length := by
  induction cells with
  | nil => rfl
  | cons cell rest ih => rw [List.foldr_cons, pushValue, Array.size_push, ih, List.length_cons]

/-- The values of the last cells are the same whatever cells come before them. -/
theorem getElem?_pushValues_append (before cells : List Cell) {i : Nat} (hi : i < cells.length) :
    ((before ++ cells).foldr (pushValue size) #[])[i]? =
      (cells.foldr (pushValue size) #[])[i]? := by
  induction before with
  | nil => rfl
  | cons cell rest ih =>
    have hne : i ≠ (rest ++ cells).length := by
      rw [List.length_append]
      omega
    rw [List.cons_append, List.foldr_cons, pushValue, Array.getElem?_push, size_pushValues,
      if_neg hne, ih]

def valueAt (sheet : Array Cell) (place : Nat) : Value :=
  (sheetValues sheet)[sheet.size - 1 - place]?.getD .null

/-- A cell whose links all lead behind it has the value that the values at its links give. -/
theorem valueAt_eq {sheet : Array Cell} {place : Nat} {cell : Cell}
    (hcell : sheet[place]? = some cell)
    (hlinks : ∀ i ∈ cell.links, place < i ∧ i < sheet.size) :
    valueAt sheet place = cell.value (valueAt sheet) := by
  obtain ⟨hplace, hget⟩ := Array.getElem?_eq_some_iff.mp hcell
  have hrange : place < sheet.toList.length := hplace
  have hsplit :
      sheet.toList = sheet.toList.take place ++ cell :: sheet.toList.drop (place + 1) := by
    rw [← hget, ← Array.getElem_toList, ← List.drop_eq_getElem_cons hrange, List.take_append_drop]
  generalize sheet.toList.take place = before at hsplit
  generalize hafter : sheet.toList.drop (place + 1) = after at hsplit
  have hlength : after.length = sheet.size - 1 - place := by
    rw [← hafter, List.length_drop, Array.length_toList]
    omega
  have hvalues : ∀ i < (cell :: after).length, (sheetValues sheet)[i]? =
      ((cell :: after).foldr (pushValue sheet.size) #[])[i]? := by
    intro i hi
    rw [sheetValues_eq, hsplit, getElem?_pushValues_append before _ hi]
  rw [valueAt, ← hlength, hvalues _ (Nat.lt_succ_self _), List.foldr_cons, pushValue,
    Array.getElem?_push, size_pushValues, if_pos rfl, Option.getD_some]
  refine Cell.value_congr fun i hi => ?_
  obtain ⟨hlt, hsize⟩ := hlinks i hi
  have hi' : sheet.size - 1 - i < after.length := by omega
  rw [valueAt, hvalues _ (Nat.lt_succ_of_lt hi'), List.foldr_cons, pushValue, Array.getElem?_push,
    size_pushValues, if_neg (Nat.ne_of_lt hi')]

theorem map_range'_eq {f : Nat → Value} {nodes : List Node} {first : Nat}
    (h : ∀ p ∈ nodes.zipIdx first, f p.2 = p.1.record) :
    (List.range' first nodes.length).map f = nodes.map record := by
  rw [← List.zipIdx_map_snd, List.map_map]
  conv => rhs; rw [← List.zipIdx_map_fst first nodes, List.map_map]
  exact List.map_congr_left h

theorem value_link {f : Nat → Value} {node : Node} {first : Nat}
    (h : ∀ p ∈ node.parts.zipIdx first, f p.2 = p.1.record) :
    ((Cell.ofNode node).link node first).value f = node.record := by
  rw [parts, List.zipIdx_append, List.forall_mem_append] at h
  obtain ⟨hchildren, hcontent⟩ := h
  rw [record_eq, entries, Cell.value, Cell.link, Cell.ofNode]
  dsimp only
  congr 2
  · rw [children] at hchildren
    cases hc : node.children? with
    | none => rfl
    | some nodes =>
      rw [hc, Option.getD_some] at hchildren
      simp only [Option.map_some, Option.toList_some, map_range'_eq hchildren]
  · cases hc : node.content? with
    | none => rfl
    | some content =>
      rw [hc] at hcontent
      have hvalue := hcontent _ List.mem_cons_self
      simp only [Option.map_some, hvalue]

theorem Holds.valueAt {sheet : Array Cell} {node : Node} {place : Nat}
    (h : Holds sheet node place) : valueAt sheet place = node.record := by
  induction h with
  | @intro node place first hlt hcell hparts ih =>
    rw [valueAt_eq hcell, value_link ih]
    intro i hi
    rw [Cell.links_link, ← List.zipIdx_map_snd first node.parts] at hi
    obtain ⟨p, hp, rfl⟩ := List.mem_map.mp hi
    have hle := List.le_snd_of_mem_zipIdx hp
    refine ⟨Nat.lt_of_lt_of_le hlt hle, ?_⟩
    obtain ⟨-, hpart, -⟩ := hparts p hp
    exact (Array.getElem?_eq_some_iff.mp hpart).1

theorem toRecord_eq (node : Node) : node.toRecord = node.record := by
  have hholds := fillSheet_holds (.start node) _ List.mem_cons_self
  have hsize (sheet : Array Cell) : (sheetValues sheet).size = sheet.size := by
    rw [sheetValues_eq, size_pushValues, Array.length_toList]
  rw [← hholds.valueAt, Node.valueAt, toRecord, Array.back?, hsize, Nat.sub_zero]

/-- The worklist makes the record that recursion on the tree makes. Its sheet has one cell for every
node of the tree, and every cell but that of the top node is linked to once. -/
theorem toRecord_eq_record (node : Node) :
    let sheet := fillSheet [(node, 0)] #[Cell.ofNode node]
    node.toRecord = node.record ∧
      (sheet.toList.map Cell.fields).Perm (node.preorder.map fields) ∧
      (sheet.toList.flatMap Cell.links).Perm (List.range' 1 (sheet.size - 1)) := by
  have hfields := fields_fillSheet (.start node)
  simp only [List.map_cons, List.map_nil, List.flatMap_singleton] at hfields
  refine ⟨toRecord_eq node, ?_, linked_fillSheet (.start node) (.refl [])⟩
  rw [preorder_eq, List.map_cons]
  exact hfields

end

end Node

end MarkupTree

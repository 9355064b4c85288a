import MarkupTree.Node.Record

namespace MarkupTree

/-- A record under construction. The records below it are named by their places in the sheet that
holds them all, and come later in it. -/
structure Cell where
  fields : List (String × Value)
  children : Option (List Nat)
  content : Option Nat

namespace Cell

def ofNode (node : Node) : Cell := ⟨node.fields, none, none⟩

/-- Links the nodes below a node, which stand in the sheet from place `first` on. -/
def link (node : Node) (first : Nat) (cell : Cell) : Cell :=
  { cell with
    children := node.children?.map fun nodes => List.range' first nodes.length
    content := node.content?.map fun _ => first + node.children.length }

def value (valueAt : Nat → Value) (cell : Cell) : Value :=
  .record (cell.fields ++
    (cell.children.map fun places => ("children", .list (places.map valueAt))).toList ++
    (cell.content.map fun place => ("content", valueAt place)).toList)

end Cell

namespace Node

def workload : List (Node × Nat) → Nat
  | [] => 0
  | (node, _) :: rest => node.count + workload rest

theorem workload_append (xs ys : List (Node × Nat)) :
    workload (xs ++ ys) = workload xs + workload ys := by
  induction xs with
  | nil => simp [workload]
  | cons x xs ih => simp [workload, ih]; omega

theorem workload_reverse (work : List (Node × Nat)) : workload work.reverse = workload work := by
  induction work with
  | nil => rfl
  | cons p rest ih => simp [workload, workload_append, ih]; omega

theorem workload_zipIdx (nodes : List Node) (first : Nat) :
    workload (nodes.zipIdx first) = countAll nodes := by
  induction nodes generalizing first with
  | nil => rfl
  | cons node rest ih => simp [workload, countAll, ih]

/-- Takes the latest node from the worklist, adds records for the nodes below it at the end of the
sheet, links them, and puts these nodes on the worklist. -/
def fillSheet (work : List (Node × Nat)) (sheet : Array Cell) : Array Cell :=
  match work with
  | [] => sheet
  | (node, place) :: rest =>
    let first := sheet.size
    let grown := sheet ++ (node.parts.map Cell.ofNode).toArray
    fillSheet ((node.parts.zipIdx first).reverse ++ rest)
      (grown.modify place (Cell.link node first))
termination_by workload work
decreasing_by
  have hc := count_eq node
  simp only [workload, workload_append, workload_reverse, workload_zipIdx]
  omega

/-- The values of a sheet from the last cell back to the first. -/
def sheetValues (sheet : Array Cell) : Array Value :=
  sheet.foldr
    (fun cell later => later.push (cell.value fun place => later[sheet.size - 1 - place]?.getD .null))
    #[]

/-- The tree as nested records, made with a worklist in place of recursion. -/
def toRecord (node : Node) : Value :=
  (sheetValues (fillSheet [(node, 0)] #[Cell.ofNode node])).back?.getD .null

end Node

end MarkupTree

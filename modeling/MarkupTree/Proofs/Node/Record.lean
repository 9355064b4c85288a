import MarkupTree.Node.Record

namespace MarkupTree.Node

theorem records_eq (nodes : List Node) : records nodes = nodes.map record := by
  induction nodes with
  | nil => rfl
  | cons node rest ih => rw [records, ih, List.map_cons]

def entries (node : Node) : Entries String Value :=
  node.fields ++
    (node.children?.map fun nodes => ("children", .list (nodes.map record))).toList ++
    (node.content?.map fun content => ("content", content.record)).toList

theorem record_eq (node : Node) : node.record = .record node.entries := by
  cases node with
  | element _ _ _ content =>
    cases content <;> simp [record, records_eq, entries, children?, content?]
  | root _ _ _ => simp [record, records_eq, entries, children?, content?]
  | _ => simp [record, entries, children?, content?]

end MarkupTree.Node
